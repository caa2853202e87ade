import RosClient.Proofs.Verdict.Timer
import RosClient.Proofs.Operation.Effect

namespace RosClient

/-- The objects without any timer but that of a slot. -/
def Objects.only (slot : Slot) (objects : Objects) : Objects :=
  { objects with
    timers := fun place => if place = .caller slot then objects.timers place else none }

/-- What a call sees of a state if it sees no timer but that of a slot. -/
def State.seenFrom (slot : Slot) (state : State) : State where
  objects := state.objects.only slot
  environment := state.environment
  readings := fun _ => state.realTime

def Commit.only {α : Type} (slot : Slot) (commit : Commit α) : Commit α :=
  { commit with objects := commit.objects.only slot }

/-- A call does the same if it sees no timer but that of a slot. -/
def Verdict.IsConfined {α : Type} (slot : Slot) (verdict : Verdict α) : Prop :=
  ∀ state, verdict (state.seenFrom slot) = (verdict state).map (Commit.only slot)

/-- Two states that agree on all that is neither another timer nor a diagnostic nor the log. -/
structure State.AgreeOn (slot : Slot) (first second : State) : Prop where
  objects : first.objects.only slot = second.objects.only slot
  environment : first.environment = second.environment

namespace Objects

variable {slot : Slot} {objects : Objects}

theorem timers_only : (objects.only slot).timers (.caller slot) =
    objects.timers (.caller slot) := by
  simp only [only, ↓reduceIte]

theorem only_setTimer (timer : Option Timer) : (objects.only slot).setTimer (.caller slot) timer =
    (objects.setTimer (.caller slot) timer).only slot := by
  refine congrArg (fun timers => { objects with timers }) (funext fun place => ?_)
  by_cases here : place = .caller slot
  · simp only [setTimer, replace, here, ↓reduceIte]
  · simp only [replace, only, here, ↓reduceIte]

theorem only_setTimer_of_ne {place : Place} (other : place ≠ .caller slot)
    (timer : Option Timer) : (objects.setTimer place timer).only slot = objects.only slot := by
  refine congrArg (fun timers => { objects with timers }) (funext fun found => ?_)
  by_cases here : found = .caller slot
  · subst here
    simp only [setTimer, replace_of_ne _ _ other.symm]
  · simp only [here, ↓reduceIte]

end Objects

namespace Verdict

section

variable {α β : Type} {slot : Slot}

theorem confined_error (fault : Fault) :
    IsConfined slot fun _ => (.error fault : Except Fault (Commit α)) :=
  fun _ => rfl

theorem confined_ok {commit : State → Commit α}
    (same : ∀ state, commit (state.seenFrom slot) = (commit state).only slot) :
    IsConfined slot fun state => .ok (commit state) :=
  fun state => congrArg Except.ok (same state)

theorem confined_bind {check : State → Except Fault β} {next : β → Verdict α}
    (same : ∀ state, check (state.seenFrom slot) = check state)
    (rest : ∀ value, IsConfined slot (next value)) :
    IsConfined slot fun state => check state >>= fun value => next value state := by
  intro state
  change (check (state.seenFrom slot) >>= fun value => next value (state.seenFrom slot)) =
    (check state >>= fun value => next value state).map (Commit.only slot)
  rw [same]
  cases check state with
  | error fault => rfl
  | ok value => exact rest value state

theorem confined_ite {condition : State → Prop} [DecidablePred condition] {yes no : Verdict α}
    (same : ∀ state, condition (state.seenFrom slot) ↔ condition state)
    (onYes : IsConfined slot yes) (onNo : IsConfined slot no) :
    IsConfined slot fun state => if condition state then yes state else no state := by
  intro state
  by_cases holds : condition state
  · simp only [holds, (same state).mpr holds, ↓reduceIte]
    exact onYes state
  · simp only [holds, mt (same state).mp holds, ↓reduceIte]
    exact onNo state

theorem findTimer_seenFrom (state : State) :
    findTimer (some (.caller slot)) (state.seenFrom slot) =
      findTimer (some (.caller slot)) state := by
  cases present : state.objects.timers (.caller slot) with
  | none =>
    rw [findTimer_of_none present, findTimer_of_none]
    exact Objects.timers_only.trans present
  | some timer =>
    rw [findTimer_of_some present, findTimer_of_some]
    exact Objects.timers_only.trans present

/-- A pointer to nothing but the slot. -/
def LeadsTo (slot : Slot) (pointer : Option Place) : Prop :=
  ∀ place, pointer = some place → place = .caller slot

theorem confined_required {name : String} {pointer : Option Place} (within : LeadsTo slot pointer)
    {next : Place → Verdict α} (rest : IsConfined slot (next (.caller slot))) :
    IsConfined slot fun state => required name pointer >>= fun place => next place state := by
  intro state
  cases pointer with
  | none => rfl
  | some place =>
    cases within place rfl
    exact rest state

theorem confined_findTimer {pointer : Option Place} (within : LeadsTo slot pointer)
    {next : Place × Timer → Verdict α}
    (rest : ∀ timer, IsConfined slot (next (.caller slot, timer))) :
    IsConfined slot fun state => findTimer pointer state >>= fun found => next found state := by
  intro state
  cases pointer with
  | none => rfl
  | some place =>
    cases within place rfl
    change (findTimer _ (state.seenFrom slot) >>= fun found => next found (state.seenFrom slot)) =
      (findTimer _ state >>= fun found => next found state).map (Commit.only slot)
    rw [findTimer_seenFrom]
    cases present : state.objects.timers (.caller slot) with
    | none =>
      rw [findTimer_of_none present]
      rfl
    | some timer =>
      rw [findTimer_of_some present]
      exact rest timer state

theorem confined_setTimer {value : α} {timer : Option Timer} :
    IsConfined slot fun state => .ok
      { value, objects := state.objects.setTimer (.caller slot) timer } :=
  confined_ok fun _ => congrArg (Commit.mk value · []) (Objects.only_setTimer timer)

end

section

-- What a call on options, contexts or clocks checks and reads is the same in both states by
-- definition, since `only` leaves the other tables; so `rfl` closes every such step below.
variable {slot : Slot}

theorem initOptions_confined (options : Option Place) : (initOptions options).IsConfined slot := by
  refine confined_bind (fun _ => rfl) fun place state => ?_
  dsimp only [State.seenFrom, Objects.only]
  cases state.objects.options place <;> rfl

theorem setDomain_confined (options : Option Place) (domain : DomainId) :
    (setDomain options domain).IsConfined slot :=
  confined_bind (fun _ => rfl) fun _ => confined_ok fun _ => rfl

theorem requestedDomain_confined (options : Option Place) (output : Bool) :
    (requestedDomain options output).IsConfined slot :=
  confined_bind (fun _ => rfl) fun _ => confined_bind (fun _ => rfl) fun _ =>
    confined_bind (fun _ => rfl) fun _ => confined_ok fun _ => rfl

theorem finiOptions_confined (options : Option Place) : (finiOptions options).IsConfined slot :=
  confined_bind (fun _ => rfl) fun _ => confined_ok fun _ => rfl

theorem initContext_confined (count : Int) (vector : Option (List (Option (List UInt8))))
    (options context : Option Place) :
    (initContext count vector options context).IsConfined slot := by
  refine confined_bind (fun _ => rfl) fun _ => confined_bind (fun _ => rfl) fun _ =>
    confined_bind (fun _ => rfl) fun place => confined_bind (fun _ => rfl) fun found state => ?_
  dsimp only [State.seenFrom, Objects.only]
  cases state.objects.contexts place with
  | some _ => rfl
  | none =>
    cases decodeItems 0 ((vector.getD []).take count.toNat) with
    | error fault => rfl
    | ok tokens =>
      dsimp only [bind, Except.bind]
      cases readContext state.environment found.2.domain tokens <;> rfl

theorem shutdownContext_confined (context : Option Place) :
    (shutdownContext context).IsConfined slot := by
  refine confined_bind (fun _ => rfl) fun found state => ?_
  obtain ⟨place, found⟩ := found
  dsimp only
  cases found.instance? <;> rfl

theorem contextDomain_confined (context : Option Place) (output : Bool) :
    (contextDomain context output).IsConfined slot := by
  refine confined_bind (fun _ => rfl) fun place => confined_bind (fun _ => rfl) fun _ state => ?_
  dsimp only [State.seenFrom, Objects.only]
  cases state.objects.contexts place with
  | none => rfl
  | some found =>
    dsimp only
    split <;> rfl

theorem unparsedCount_confined (context : Option Place) (output : Bool) :
    (unparsedCount context output).IsConfined slot :=
  confined_bind (fun _ => rfl) fun _ => confined_bind (fun _ => rfl) fun _ =>
    confined_bind (fun _ => rfl) fun _ => confined_ok fun _ => rfl

theorem unparsedArgument_confined (context : Option Place) (index : Nat) :
    (unparsedArgument context index).IsConfined slot := by
  refine confined_bind (fun _ => rfl) fun found state => ?_
  obtain ⟨place, found⟩ := found
  dsimp only
  cases found.arguments.unparsed[index]? <;> rfl

theorem finiContext_confined (context : Option Place) : (finiContext context).IsConfined slot :=
  confined_bind (fun _ => rfl) fun _ =>
    confined_ite (fun _ => Iff.rfl) (confined_error _) (confined_ok fun _ => rfl)

theorem initClock_confined (type : ClockType) (clock : Option Place) :
    (initClock type clock).IsConfined slot :=
  confined_bind (fun _ => rfl) fun _ =>
    confined_ite (fun _ => Iff.rfl) (confined_error _) (confined_ok fun _ => rfl)

theorem clockNow_confined (clock : Option Place) (output : Bool) :
    (clockNow clock output).IsConfined slot :=
  confined_bind (fun _ => rfl) fun _ => confined_bind (fun _ => rfl) fun _ =>
    confined_bind (fun _ => rfl) fun _ => confined_ok fun _ => rfl

theorem changeOverride_confined (action : OverrideAction) (change : Override → Override)
    (clock : Option Place) : (changeOverride action change clock).IsConfined slot :=
  confined_bind (fun _ => rfl) fun _ => confined_bind (fun _ => rfl) fun _ =>
    confined_ok fun _ => rfl

theorem isOverrideEnabled_confined (clock : Option Place) (output : Bool) :
    (isOverrideEnabled clock output).IsConfined slot :=
  confined_bind (fun _ => rfl) fun _ => confined_bind (fun _ => rfl) fun _ =>
    confined_bind (fun _ => rfl) fun _ => confined_ok fun _ => rfl

theorem finiClock_confined (clock : Option Place) : (finiClock clock).IsConfined slot :=
  confined_bind (fun _ => rfl) fun _ =>
    confined_ite (fun _ => Iff.rfl) (confined_ok fun _ => rfl) (confined_error _)

variable {timer : Option Place} (within : LeadsTo slot timer)

include within

theorem initTimer_confined (clock context : Option Place) (period : Nanos)
    (callback : Option Callback) :
    (initTimer timer clock context period callback).IsConfined slot := by
  refine confined_required within <|
    confined_bind (fun _ => rfl) fun _ => confined_bind (fun _ => rfl) fun _ =>
    confined_ite (fun state => ?_) (confined_error _) <|
    confined_ite (fun _ => Iff.rfl) (confined_error _) <|
    confined_ite (fun _ => Iff.rfl) (confined_error _) <|
    confined_bind (fun _ => rfl) fun _ => confined_setTimer
  rw [State.seenFrom, Objects.timers_only]

theorem callTimer_confined : (callTimer timer).IsConfined slot :=
  confined_findTimer within fun _ =>
    confined_ite (fun _ => Iff.rfl) (confined_error _) <|
    confined_bind (fun _ => rfl) fun _ => confined_bind (fun _ => rfl) fun _ => confined_setTimer

theorem timerIsReady_confined (output : Bool) : (timerIsReady timer output).IsConfined slot :=
  confined_bind (fun _ => rfl) fun _ => confined_findTimer within fun _ =>
    confined_ite (fun _ => Iff.rfl) (confined_ok fun _ => rfl) <|
    confined_bind (fun _ => rfl) fun _ => confined_ok fun _ => rfl

theorem timerIsCanceled_confined (output : Bool) :
    (timerIsCanceled timer output).IsConfined slot :=
  confined_bind (fun _ => rfl) fun _ => confined_findTimer within fun _ => confined_ok fun _ => rfl

theorem resetTimer_confined : (resetTimer timer).IsConfined slot :=
  confined_findTimer within fun _ => confined_bind (fun _ => rfl) fun _ => confined_setTimer

theorem cancelTimer_confined : (cancelTimer timer).IsConfined slot :=
  confined_findTimer within fun _ => confined_setTimer

theorem timeUntilNextCall_confined (output : Bool) :
    (timeUntilNextCall timer output).IsConfined slot :=
  confined_bind (fun _ => rfl) fun _ => confined_findTimer within fun _ =>
    confined_ite (fun _ => Iff.rfl) (confined_error _) <|
    confined_bind (fun _ => rfl) fun _ => confined_ok fun _ => rfl

theorem timeSinceLastCall_confined (output : Bool) :
    (timeSinceLastCall timer output).IsConfined slot :=
  confined_bind (fun _ => rfl) fun _ => confined_findTimer within fun _ =>
    confined_bind (fun _ => rfl) fun _ => confined_ok fun _ => rfl

theorem timerPeriod_confined (output : Bool) : (timerPeriod timer output).IsConfined slot :=
  confined_bind (fun _ => rfl) fun _ => confined_findTimer within fun _ => confined_ok fun _ => rfl

theorem exchangePeriod_confined (period : Nanos) (output : Bool) :
    (exchangePeriod timer period output).IsConfined slot :=
  confined_bind (fun _ => rfl) fun _ => confined_findTimer within fun _ =>
    confined_ite (fun _ => Iff.rfl) (confined_error _) confined_setTimer

theorem finiTimer_confined : (finiTimer timer).IsConfined slot := by
  cases timer with
  | none => exact fun _ => rfl
  | some place =>
    cases within place rfl
    exact confined_setTimer

end

end Verdict

end RosClient
