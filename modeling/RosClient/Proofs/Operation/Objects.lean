import RosClient.Proofs.Verdict.Clock
import RosClient.Proofs.Verdict.Context
import RosClient.Proofs.Verdict.Timer
import RosClient.Proofs.Operation.Effect

namespace RosClient

theorem Verdict.Looks.objects_respond {α : Type} {call : Call α} {verdict : Verdict α}
    [Settles call Fault.status verdict] (looks : verdict.Looks) (state : State)
    (output : α → Option Value) :
    (state.respond call output).state.objects = state.objects := by
  rcases State.objects_respond state call output with kept | ⟨commit, accepted, stored⟩
  · exact kept
  · rw [stored, looks.objects_eq accepted]

namespace Objects

/-- At most the entry behind a pointer has changed, in the table that `set` writes. -/
def Changes {ε : Type} (set : Objects → Place → ε → Objects) (pointer : Option Place)
    (before after : Objects) : Prop :=
  after = before ∨ ∃ place entry, pointer = some place ∧ after = set before place entry

/-- The objects with another context at a place and another instance id to come. -/
def setContextAndId (objects : Objects) (place : Place) (entry : Option Context × Nat) : Objects :=
  { objects.setContext place entry.1 with nextId := entry.2 }

variable {ε : Type} {set : Objects → Place → ε → Objects} {pointer : Option Place}

theorem changes_respond {α : Type} {call : Call α} {verdict : Verdict α}
    [Settles call Fault.status verdict] {state : State} {output : α → Option Value}
    (commits : ∀ commit, verdict state = .ok commit →
      ∃ place entry, pointer = some place ∧ commit.objects = set state.objects place entry) :
    Changes set pointer state.objects (state.respond call output).state.objects := by
  rcases State.objects_respond state call output with kept | ⟨commit, accepted, stored⟩
  · exact Or.inl kept
  · obtain ⟨place, entry, here, written⟩ := commits commit accepted
    exact Or.inr ⟨place, entry, here, stored.trans written⟩

theorem changes_of_looks {α : Type} {call : Call α} {verdict : Verdict α}
    [Settles call Fault.status verdict] (looks : verdict.Looks) (state : State)
    (output : α → Option Value) :
    Changes set pointer state.objects (state.respond call output).state.objects :=
  Or.inl (looks.objects_respond state output)

/-- A view that does not show the entry behind a pointer, in the table that `set` writes. -/
def Hides {β : Type} (view : Objects → β) (set : Objects → Place → ε → Objects)
    (pointer : Option Place) : Prop :=
  ∀ objects place entry, pointer = some place → view (set objects place entry) = view objects

theorem Changes.keeps {β : Type} {before after : Objects}
    (changed : Changes set pointer before after) (view : Objects → β)
    (hidden : Hides view set pointer) : view after = view before := by
  rcases changed with rfl | ⟨place, entry, here, rfl⟩
  · rfl
  · exact hidden before place entry here

theorem hides_clock_of_ne {place : Place} (apart : pointer ≠ some place) :
    Hides (·.clocks place) setClock pointer := by
  intro objects other entry here
  apply replace_of_ne
  rintro rfl
  exact apart here

theorem hides_timer_of_ne {place : Place} (apart : pointer ≠ some place) :
    Hides (·.timers place) setTimer pointer := by
  intro objects other entry here
  apply replace_of_ne
  rintro rfl
  exact apart here

theorem hides_context_of_ne {place : Place} (apart : pointer ≠ some place) :
    Hides (·.contexts place) setContextAndId pointer := by
  intro objects other entry here
  apply replace_of_ne
  rintro rfl
  exact apart here

end Objects

open Objects

theorem OptionsCall.perform_objects (options : Option Place) (state : State)
    (request : OptionsCall) :
    Changes setOptions options state.objects (request.perform options state).state.objects := by
  cases request with
  | init =>
    apply changes_respond
    intro commit accepted
    obtain ⟨place, here, _, rfl⟩ := Verdict.initOptions_eq_ok.mp accepted
    exact ⟨place, _, here, rfl⟩
  | setDomain domain =>
    apply changes_respond
    intro commit accepted
    obtain ⟨place, _, ⟨here, _⟩, rfl⟩ := Verdict.setDomain_eq_ok.mp accepted
    exact ⟨place, _, here, rfl⟩
  | getDomain output => exact changes_of_looks (Verdict.requestedDomain_looks options output) _ _
  | fini =>
    apply changes_respond
    intro commit accepted
    obtain ⟨place, _, ⟨here, _⟩, rfl⟩ := Verdict.finiOptions_eq_ok.mp accepted
    exact ⟨place, _, here, rfl⟩

theorem initContext_objects (count : Int) (vector : Option (List (Option (List UInt8))))
    (options context : Option Place) (state : State) :
    Changes setContextAndId context state.objects
      (state.respondStatus (Call.initContext count vector options context)).state.objects := by
  apply changes_respond
  intro commit accepted
  obtain ⟨_, place, here, _, _, _, _, _, _, _, _, _, rfl⟩ := Verdict.initContext_eq_ok.mp accepted
  exact ⟨place, (_, _), here, rfl⟩

theorem ContextCall.perform_objects (context : Option Place) (state : State)
    (request : ContextCall) :
    Changes setContextAndId context state.objects
      (request.perform context state).state.objects := by
  cases request with
  | shutdown =>
    apply changes_respond
    intro commit accepted
    obtain ⟨place, _, ⟨here, _⟩, _, _, rfl⟩ := Verdict.shutdownContext_eq_ok.mp accepted
    exact ⟨place, (_, state.objects.nextId), here, rfl⟩
  | isValid | instanceId => exact Or.inl rfl
  | domainId output => exact changes_of_looks (Verdict.contextDomain_looks context output) _ _
  | unparsedCount output => exact changes_of_looks (Verdict.unparsedCount_looks context output) _ _
  | unparsed index =>
    refine Or.inl ?_
    cases outcome : Verdict.unparsedArgument context index state with
    | error fault =>
      simp only [ContextCall.perform, State.perform_of_error outcome, State.objects_raise]
    | ok commit =>
      have same := (Verdict.unparsedArgument_looks context index).objects_eq outcome
      simp only [ContextCall.perform, State.perform_of_ok outcome, same]
  | fini =>
    apply changes_respond
    intro commit accepted
    obtain ⟨place, _, ⟨here, _⟩, _, rfl⟩ := Verdict.finiContext_eq_ok.mp accepted
    exact ⟨place, (_, state.objects.nextId), here, rfl⟩

theorem changeOverride_objects (action : OverrideAction) (change : Override → Override)
    (clock : Option Place) (state : State) :
    Changes setClock clock state.objects
      (state.respondStatus (Call.changeOverride action change clock)).state.objects := by
  apply changes_respond
  intro commit accepted
  obtain ⟨place, here, _, _, rfl⟩ := Verdict.changeOverride_eq_ok.mp accepted
  exact ⟨place, _, here, rfl⟩

theorem ClockCall.perform_objects (clock : Option Place) (state : State) (request : ClockCall) :
    Changes setClock clock state.objects (request.perform clock state).state.objects := by
  cases request with
  | init type =>
    apply changes_respond
    intro commit accepted
    obtain ⟨place, here, _, rfl⟩ := Verdict.initClock_eq_ok.mp accepted
    exact ⟨place, _, here, rfl⟩
  | isValid | fields => exact Or.inl rfl
  | now output => exact changes_of_looks (Verdict.clockNow_looks output) _ _
  | isOverrideEnabled output => exact changes_of_looks (Verdict.isOverrideEnabled_looks output) _ _
  | enableOverride | disableOverride | setOverride => exact changeOverride_objects _ _ _ _
  | fini =>
    apply changes_respond
    intro commit accepted
    obtain ⟨place, here, _, rfl⟩ := Verdict.finiClock_eq_ok.mp accepted
    exact ⟨place, _, here, rfl⟩
  | setType type =>
    cases clock with
    | none => exact Or.inl rfl
    | some place => exact Or.inr ⟨place, _, rfl, rfl⟩

theorem initTimer_objects (timer clock context : Option Place) (period : Nanos)
    (callback : Option Callback) (state : State) :
    Changes setTimer timer state.objects
      (state.respondStatus (Call.initTimer timer clock context period callback)).state.objects := by
  apply changes_respond
  intro commit accepted
  obtain ⟨place, here, _, _, _, _, _, _, _, _, rfl⟩ := Verdict.initTimer_eq_ok.mp accepted
  exact ⟨place, _, here, rfl⟩

theorem callTimer_objects (timer : Option Place) (state : State) :
    Changes setTimer timer state.objects (TimerCall.call.perform timer state).state.objects := by
  cases outcome : Verdict.callTimer timer state with
  | error fault =>
    rw [State.callTimer_of_error outcome]
    exact Or.inl rfl
  | ok commit =>
    rw [State.callTimer_of_ok outcome]
    obtain ⟨place, _, ⟨here, _⟩, _, _, _, _, _, _, rfl⟩ := Verdict.callTimer_eq_ok.mp outcome
    exact Or.inr ⟨place, _, here, rfl⟩

theorem TimerCall.perform_objects (timer : Option Place) (state : State) (request : TimerCall) :
    Changes setTimer timer state.objects (request.perform timer state).state.objects := by
  cases request with
  | call => exact callTimer_objects timer state
  | isReady output => exact changes_of_looks (Verdict.timerIsReady_looks output) _ _
  | isCanceled output => exact changes_of_looks (Verdict.timerIsCanceled_looks output) _ _
  | untilNextCall output => exact changes_of_looks (Verdict.timeUntilNextCall_looks output) _ _
  | sinceLastCall output => exact changes_of_looks (Verdict.timeSinceLastCall_looks output) _ _
  | period output => exact changes_of_looks (Verdict.timerPeriod_looks output) _ _
  | reset =>
    apply changes_respond
    intro commit accepted
    obtain ⟨place, _, ⟨here, _⟩, _, _, rfl⟩ := Verdict.resetTimer_eq_ok.mp accepted
    exact ⟨place, _, here, rfl⟩
  | cancel =>
    apply changes_respond
    intro commit accepted
    obtain ⟨place, _, ⟨here, _⟩, rfl⟩ := Verdict.cancelTimer_eq_ok.mp accepted
    exact ⟨place, _, here, rfl⟩
  | exchangePeriod next output =>
    apply changes_respond
    intro commit accepted
    obtain ⟨_, place, _, ⟨here, _⟩, _, rfl⟩ := Verdict.exchangePeriod_eq_ok.mp accepted
    exact ⟨place, _, here, rfl⟩
  | fini =>
    cases timer with
    | none => exact Or.inl rfl
    | some place =>
      apply changes_respond
      intro commit accepted
      cases accepted
      exact ⟨place, none, rfl, rfl⟩

/-- A view that shows nothing of what an operation may write. -/
def Operation.HiddenFrom {β : Type} (view : Objects → β) : Operation → Prop
  | options slot _ => Hides view setOptions (pointerTo slot)
  | initContext _ _ _ target => Hides view setContextAndId (pointerTo target)
  | context slot _ => Hides view setContextAndId (pointerTo slot)
  | clock slot _ => Hides view setClock (pointerTo slot)
  | initTimer target _ _ _ _ _ => Hides view setTimer (pointerTo target)
  | timer slot _ => Hides view setTimer (pointerTo slot)
  | errorIsSet | errorText | resetError | otherThread | setVariable _ _ | installLogger
  | refuse _ => True

theorem Operation.perform_keeps {β : Type} (operation : Operation) (state : State)
    (view : Objects → β) (hidden : operation.HiddenFrom view) :
    view (operation.perform state).state.objects = view state.objects := by
  cases operation with
  | errorIsSet | errorText | resetError | setVariable | refuse | otherThread | installLogger => rfl
  | options slot request => exact (request.perform_objects _ state).keeps view hidden
  | initContext count vector given target =>
    simp only [Operation.perform]
    split
    · exact (initContext_objects _ _ _ _ state).keeps view hidden
    · rfl
  | context slot request => exact (request.perform_objects _ state).keeps view hidden
  | clock slot request => exact (request.perform_objects _ state).keeps view hidden
  | initTimer => exact (initTimer_objects _ _ _ _ _ state).keeps view hidden
  | timer slot request => exact (request.perform_objects _ state).keeps view hidden

theorem pointerTo_ne {place : Place} (foreign : ∀ slot, place ≠ .caller slot)
    (slot : Option Slot) : pointerTo slot ≠ some place := by
  cases slot with
  | none => exact nofun
  | some found =>
    intro here
    cases here
    exact foreign found rfl

/-- The clock at a place that no operation names stays as it is. -/
theorem Operation.clocks_perform (operation : Operation) (state : State) {place : Place}
    (foreign : ∀ slot, place ≠ .caller slot) :
    (operation.perform state).state.objects.clocks place = state.objects.clocks place := by
  apply operation.perform_keeps state (·.clocks place)
  cases operation with
  | clock slot request => exact hides_clock_of_ne (pointerTo_ne foreign slot)
  | options | initContext | context | initTimer | timer => exact fun _ _ _ _ => rfl
  | errorIsSet | errorText | resetError | setVariable | refuse | otherThread | installLogger =>
    trivial

/-- Whether an operation is one on timers. -/
def Operation.isOnTimer : Operation → Bool
  | initTimer .. => true
  | timer .. => true
  | _ => false

/-- Operations on other kinds of objects leave all timers as they are. -/
theorem Operation.timers_perform (operation : Operation) (state : State)
    (other : operation.isOnTimer = false) :
    (operation.perform state).state.objects.timers = state.objects.timers := by
  apply operation.perform_keeps state (·.timers)
  cases operation with
  | options | initContext | context | clock => exact fun _ _ _ _ => rfl
  | errorIsSet | errorText | resetError | setVariable | refuse | otherThread | installLogger =>
    trivial
  | initTimer | timer => cases other

end RosClient
