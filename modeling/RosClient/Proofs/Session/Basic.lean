import RosClient.Proofs.Handle.Action
import RosClient.Session.Run

namespace RosClient

/-- Whether a step answers a value. -/
def StepAnswer.isOk : StepAnswer → Bool
  | outcome (.value _) => true
  | kept (.value _) _ => true
  | fired (.value _) _ => true
  | _ => false

namespace Session

/-- What the slot of a context holds, nothing if it is not in use. -/
def heldContext (session : Session) (slot : Slot) : HeldContext :=
  (session.contexts.get? slot).getD .empty

/-- What the slot of a clock holds, nothing if it is not in use. -/
def heldClock (session : Session) (slot : Slot) : HeldClock :=
  (session.clocks.get? slot).getD .empty

/-- What the slot of a timer holds, nothing if it is not in use. -/
def heldTimer (session : Session) (slot : Slot) : HeldTimer :=
  (session.timers.get? slot).getD .empty

theorem state_act {α : Type} (session : Session) (action : Action α) :
    (session.act action).2 = { session with state := stateOf (action session.state) } := by
  unfold act
  cases action session.state <;> rfl

theorem respond_snd {α : Type} (session : Session) (action : Action α) (value : α → Value) :
    (session.respond action value).2 =
      { session with state := stateOf (action session.state) } := by
  rw [← state_act]
  unfold respond answer
  cases session.act action with
  | mk ended after => cases ended <;> rfl

theorem store_snd {α : Type} (session : Session) (action : Action α)
    (put : Session → α → Session) :
    (session.store action put).2 =
      match action session.state with
      | .ok result after => put { session with state := after } result
      | .error _ after => { session with state := after } := by
  unfold store act
  cases action session.state <;> rfl

theorem respond_of_ok {α : Type} {session : Session} {action : Action α} {value : α → Value}
    {result : α} {after : State} (ended : action session.state = .ok result after) :
    session.respond action value =
      (.outcome (.value (value result)), { session with state := after }) := by
  simp only [respond, answer, act, ended]

theorem respond_of_error {α : Type} {session : Session} {action : Action α} {value : α → Value}
    {e : Error} {after : State} (ended : action session.state = .error e after) :
    session.respond action value = (.outcome (.error e), { session with state := after }) := by
  simp only [respond, answer, act, ended]

theorem respondStore_of_ok {α : Type} {session : Session} {action : Action α}
    {put : Session → α → Session} {result : α} {after : State}
    (ended : action session.state = .ok result after) :
    session.respondStore action put =
      (.outcome (.value .nothing), put { session with state := after } result) := by
  simp only [respondStore, store, act, ended]

theorem respondStore_of_error {α : Type} {session : Session} {action : Action α}
    {put : Session → α → Session} {e : Error} {after : State}
    (ended : action session.state = .error e after) :
    session.respondStore action put =
      (.outcome (.error e), { session with state := after }) := by
  simp only [respondStore, store, act, ended]

theorem context_fst (session : Session) (slot : Slot) :
    (session.context slot).1 = session.heldContext slot := by
  unfold context heldContext
  cases session.contexts.get? slot <;> rfl

theorem clock_fst (session : Session) (slot : Slot) :
    (session.clock slot).1 = session.heldClock slot := by
  unfold clock heldClock
  cases session.clocks.get? slot <;> rfl

theorem timer_fst (session : Session) (slot : Slot) :
    (session.timer slot).1 = session.heldTimer slot := by
  unfold timer heldTimer
  cases session.timers.get? slot <;> rfl

theorem getD_get?_put_empty {α : Type} {slots : Slots α} {slot : Slot} {empty : α}
    (absent : slots.get? slot = none) (other : Slot) :
    ((slots.put slot empty).get? other).getD empty = (slots.get? other).getD empty := by
  by_cases same : other = slot
  · rw [same, Slots.get?_put_self, absent]
    rfl
  · rw [Slots.get?_put_of_ne _ _ same]

@[simp] theorem state_context (session : Session) (slot : Slot) :
    (session.context slot).2.state = session.state := by
  unfold context
  cases session.contexts.get? slot <;> rfl

@[simp] theorem state_clock (session : Session) (slot : Slot) :
    (session.clock slot).2.state = session.state := by
  unfold clock
  cases session.clocks.get? slot <;> rfl

@[simp] theorem state_timer (session : Session) (slot : Slot) :
    (session.timer slot).2.state = session.state := by
  unfold timer
  cases session.timers.get? slot <;> rfl

theorem context_snd (session : Session) (slot : Slot) :
    ∃ contexts : Slots HeldContext, (session.context slot).2 = { session with contexts } ∧
      ∀ other, (contexts.get? other).getD .empty = session.heldContext other := by
  unfold context
  cases absent : session.contexts.get? slot with
  | some held => exact ⟨session.contexts, rfl, fun _ => rfl⟩
  | none => exact ⟨_, rfl, getD_get?_put_empty absent⟩

theorem clock_snd (session : Session) (slot : Slot) :
    ∃ clocks : Slots HeldClock, (session.clock slot).2 = { session with clocks } ∧
      ∀ other, (clocks.get? other).getD .empty = session.heldClock other := by
  unfold clock
  cases absent : session.clocks.get? slot with
  | some held => exact ⟨session.clocks, rfl, fun _ => rfl⟩
  | none => exact ⟨_, rfl, getD_get?_put_empty absent⟩

theorem timer_snd (session : Session) (slot : Slot) :
    ∃ timers : Slots HeldTimer, (session.timer slot).2 = { session with timers } ∧
      ∀ other, (timers.get? other).getD .empty = session.heldTimer other := by
  unfold timer
  cases absent : session.timers.get? slot with
  | some held => exact ⟨session.timers, rfl, fun _ => rfl⟩
  | none => exact ⟨_, rfl, getD_get?_put_empty absent⟩

theorem heldContext_context (session : Session) (slot : Slot) :
    (session.context slot).2.heldContext = session.heldContext := by
  obtain ⟨contexts, looked, same⟩ := session.context_snd slot
  rw [looked]
  exact funext same

theorem heldClock_context (session : Session) (slot : Slot) :
    (session.context slot).2.heldClock = session.heldClock := by
  obtain ⟨contexts, looked, _⟩ := session.context_snd slot
  rw [looked]
  rfl

theorem heldContext_clock (session : Session) (slot : Slot) :
    (session.clock slot).2.heldContext = session.heldContext := by
  obtain ⟨clocks, looked, _⟩ := session.clock_snd slot
  rw [looked]
  rfl

theorem heldClock_clock (session : Session) (slot : Slot) :
    (session.clock slot).2.heldClock = session.heldClock := by
  obtain ⟨clocks, looked, same⟩ := session.clock_snd slot
  rw [looked]
  exact funext same

theorem sources_context (session : Session) (slot : Slot) :
    (session.context slot).2.sources = session.sources := by
  obtain ⟨contexts, looked, _⟩ := session.context_snd slot
  rw [looked]

theorem sources_clock (session : Session) (slot : Slot) :
    (session.clock slot).2.sources = session.sources := by
  obtain ⟨clocks, looked, _⟩ := session.clock_snd slot
  rw [looked]

theorem timers_context (session : Session) (slot : Slot) :
    (session.context slot).2.timers = session.timers := by
  obtain ⟨contexts, looked, _⟩ := session.context_snd slot
  rw [looked]

theorem timers_clock (session : Session) (slot : Slot) :
    (session.clock slot).2.timers = session.timers := by
  obtain ⟨clocks, looked, _⟩ := session.clock_snd slot
  rw [looked]

theorem heldTimer_timer (session : Session) (slot : Slot) :
    (session.timer slot).2.heldTimer = session.heldTimer := by
  obtain ⟨timers, looked, same⟩ := session.timer_snd slot
  rw [looked]
  exact funext same

end Session

/-- What is told of a new timer: with a function, whether it is kept. -/
def madeAnswer (slot : Slot) (function : Option Bool) (session : Session) (outcome : Outcome) :
    StepAnswer :=
  match function, session.timers.get? slot with
  | none, _ => .outcome outcome
  | some _, some held => .kept outcome (session.hasCallback held.handle)
  | some _, none => .kept outcome false

theorem Session.makeOwnedTimer_eq (session : Session) (slot clock context : Slot) (period : Nanos)
    (function : Option Bool) :
    session.makeOwnedTimer slot clock context period function =
      if (session.timers.get? slot).isSome then session.refuse .slotInUse
      else
        let (heldContext, session) := session.context context
        let (heldClock, session) := session.clock clock
        if heldContext.owned && heldClock.owned.isSome then
          let (outcome, after) := session.storeTimer slot clock true
            (TimerHandle.create slot heldClock.handle heldContext.handle period
              (function.map .function))
          (madeAnswer slot function after outcome, after)
        else session.refuse .notOwned := by
  unfold Session.makeOwnedTimer
  split
  · rfl
  · simp only
    split
    · split
      · rfl
      · next present => simp only [madeAnswer, present]
      · next absent => simp only [madeAnswer, absent]
    · rfl

theorem TimerStep.perform_use (slot : Slot) (session : Session) (request : TimerRequest) :
    (TimerStep.use request).perform slot session =
      (session.timer slot).1.handle.elim (.outcome .misuse, (session.timer slot).2)
        (request.perform · (session.timer slot).2) := by
  simp only [TimerStep.perform]
  cases (session.timer slot).1.handle <;> rfl

end RosClient
