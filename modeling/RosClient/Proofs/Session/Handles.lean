import RosClient.Proofs.Context.Instant
import RosClient.Proofs.Session.Timers

namespace RosClient

/-- What a handle may lead to. -/
inductive HandleKind where
  | context
  | clock
  | timer
  deriving DecidableEq

/-- The handle of a kind that a slot holds, empty if the slot is not in use. -/
def Session.handle (session : Session) (slot : Slot) : HandleKind → Handle
  | .context => (session.heldContext slot).handle
  | .clock => (session.heldClock slot).handle
  | .timer => (session.heldTimer slot).handle

/-- Whether a step is to make a context. -/
def ContextStep.makes : ContextStep → Bool
  | create | new .. | newFromEnvironment _ => true
  | use _ | drop => false

/-- Whether a step is to make a clock. -/
def ClockStep.makes : ClockStep → Bool
  | create _ | new _ => true
  | use _ | dispose | drop => false

/-- Whether a step is to make a timer. -/
def TimerStep.makes : TimerStep → Bool
  | create .. | new .. => true
  | use _ | hasCallback | handle | dispose | drop => false

/-- Whether a step is to make an object of a kind in a slot. -/
def Step.makes (kind : HandleKind) (slot : Slot) : Step → Bool
  | context target step => kind = .context && slot = target && step.makes
  | clock target step => kind = .clock && slot = target && step.makes
  | timer target step => kind = .timer && slot = target && step.makes
  | operation _ | source _ _ | startLogging => false

open Session

section

variable {session : Session} {slot : Slot}

theorem disposeContext_none (session : Session) (slot : Slot) (held : HeldContext)
    (empty : held.handle = none) :
    (ContextRequest.dispose.perform slot held session) =
      (.outcome (.value .nothing), session.putContext slot held) := by
  obtain ⟨handle, owned⟩ := held
  cases empty
  rfl

theorem useContext_empty (empty : session.handle slot .context = none) (request : ContextRequest) :
    ((ContextStep.use request).perform slot session).2.handle slot .context = none := by
  have looked : ((session.context slot).2.heldContext slot).handle = none := by
    rw [heldContext_context]
    exact empty
  have responds {α : Type} (action : Action α) (value : α → Value) :
      (((session.context slot).2.respond action value).2.heldContext slot).handle = none := by
    rw [respond_snd]
    exact looked
  cases request with
  | init | shutdown | domainId | unparsed => exact responds _ _
  | dispose =>
    have held : (session.context slot).1.handle = none := by
      rw [context_fst]
      exact empty
    change ((ContextRequest.dispose.perform slot (session.context slot).1
      (session.context slot).2).2.heldContext slot).handle = none
    rw [disposeContext_none _ _ _ held, heldContext_putContext_self, held]
  | isValid | instanceId | handle => exact looked
  | roundTrip =>
    simp only [ContextStep.perform, ContextRequest.perform]
    split <;> exact looked

theorem ContextStep.empty_perform (empty : session.handle slot .context = none) (step : ContextStep)
    (other : step.makes = false) :
    (step.perform slot session).2.handle slot .context = none := by
  cases step with
  | create | new | newFromEnvironment => cases other
  | use request => exact useContext_empty empty request
  | drop =>
    change (((session.dropContext slot).contexts.get? slot).getD .empty).handle = none
    rw [dropContext, Slots.get?_erase_self]
    rfl

theorem disposeClock_eq (session : Session) (slot : Slot) :
    session.disposeClock slot =
      (session.clock slot).2.respondStore (ClockHandle.dispose (session.heldClock slot).handle)
        fun after handle => after.putClock slot { session.heldClock slot with handle } := by
  rw [← clock_fst]
  rfl

theorem disposeClock_none (empty : session.handle slot .clock = none) :
    session.disposeClock slot =
      (.outcome (.value .nothing),
        (session.clock slot).2.putClock slot (session.heldClock slot)) := by
  have held : (session.heldClock slot).handle = none := empty
  rw [disposeClock_eq]
  generalize session.heldClock slot = found at held
  obtain ⟨handle, owned⟩ := found
  cases held
  rfl

theorem ClockStep.empty_perform (empty : session.handle slot .clock = none) (step : ClockStep)
    (other : step.makes = false) :
    (step.perform slot session).2.handle slot .clock = none := by
  cases step with
  | create | new => cases other
  | use request =>
    have framed := request.perform_frame (·.heldClock slot) (fun _ _ => rfl)
      (session.clock slot).1 (session.clock slot).2
    refine (congrArg HeldClock.handle framed).trans ?_
    rw [heldClock_clock]
    exact empty
  | dispose =>
    simp only [ClockStep.perform]
    split
    · exact empty
    · rw [disposeClock_none empty]
      exact (congrArg HeldClock.handle (heldClock_putClock_self _ _ _)).trans empty
  | drop =>
    simp only [ClockStep.perform]
    split
    · exact empty
    · change (((session.dropClock slot).clocks.get? slot).getD .empty).handle = none
      rw [dropClock, Slots.get?_erase_self]
      rfl

theorem disposeTimer_eq (session : Session) (slot : Slot) :
    session.disposeTimer slot =
      let (outcome, after) :=
        (session.timer slot).2.store (TimerHandle.dispose (session.heldTimer slot).handle)
          fun after handle => after.putTimer slot { session.heldTimer slot with handle }
      (.kept outcome (after.hasCallback (session.heldTimer slot).handle), after) := by
  rw [← timer_fst]
  rfl

theorem disposeTimer_none (empty : session.handle slot .timer = none) :
    session.disposeTimer slot =
      (.kept (.value .nothing) false,
        (session.timer slot).2.putTimer slot (session.heldTimer slot)) := by
  have held : (session.heldTimer slot).handle = none := empty
  rw [disposeTimer_eq]
  generalize session.heldTimer slot = found at held
  obtain ⟨handle, clock, owned⟩ := found
  cases held
  rfl

theorem TimerStep.empty_perform (empty : session.handle slot .timer = none) (step : TimerStep)
    (other : step.makes = false) :
    (step.perform slot session).2.handle slot .timer = none := by
  have looked : (session.timer slot).2.handle slot .timer = none := by
    unfold Session.handle
    rw [heldTimer_timer]
    exact empty
  cases step with
  | create | new => cases other
  | use request =>
    rw [TimerStep.perform_use, timer_fst, show (session.heldTimer slot).handle = none from empty]
    exact looked
  | hasCallback =>
    simp only [TimerStep.perform]
    split <;> exact looked
  | handle => exact looked
  | dispose =>
    simp only [TimerStep.perform]
    rw [disposeTimer_none empty]
    exact (congrArg HeldTimer.handle (heldTimer_putTimer_self _ _ _)).trans empty
  | drop =>
    simp only [TimerStep.perform, dropTimer]
    split
    · exact empty
    · change (((session.timers.erase slot).get? slot).getD .empty).handle = none
      rw [Slots.get?_erase_self]
      rfl

/-- A handle that is empty stays so in every step that makes no new object for it. -/
theorem Step.empty_perform {kind : HandleKind} (empty : session.handle slot kind = none)
    (step : Step) (other : step.makes kind slot = false) :
    (step.perform session).2.handle slot kind = none := by
  have untouched (same : (step.perform session).2.handle slot kind = session.handle slot kind) :
      (step.perform session).2.handle slot kind = none :=
    same.trans empty
  cases kind with
  | context =>
    cases step with
    | context target step =>
      by_cases here : slot = target
      · subst here
        exact step.empty_perform empty (by simpa [Step.makes] using other)
      · exact untouched (congrArg HeldContext.handle (step.heldContext_perform_of_ne session here))
    | operation | clock | timer | source | startLogging =>
      exact untouched (congrArg HeldContext.handle
        (congrFun (Step.heldContext_perform _ session rfl) slot))
  | clock =>
    cases step with
    | clock target step =>
      by_cases here : slot = target
      · subst here
        exact step.empty_perform empty (by simpa [Step.makes] using other)
      · exact untouched (congrArg HeldClock.handle (step.heldClock_perform_of_ne session here))
    | operation | context | timer | source | startLogging =>
      exact untouched (congrArg HeldClock.handle
        (congrFun (Step.heldClock_perform _ session rfl) slot))
  | timer =>
    cases step with
    | timer target step =>
      by_cases here : slot = target
      · subst here
        exact step.empty_perform empty (by simpa [Step.makes] using other)
      · exact untouched (congrArg HeldTimer.handle (step.heldTimer_perform_of_ne session here))
    | operation | context | clock | source | startLogging =>
      exact untouched (congrArg HeldTimer.handle
        (congrFun (Step.heldTimer_perform _ session rfl) slot))

/-- A handle that is empty stays so along steps that make no new object for it. -/
theorem Session.empty_after {kind : HandleKind} (empty : session.handle slot kind = none)
    {steps : List Step} (others : ∀ step ∈ steps, step.makes kind slot = false) :
    (session.after steps).handle slot kind = none := by
  induction steps generalizing session with
  | nil => exact empty
  | cons step rest ih =>
    exact ih (step.empty_perform empty (others step List.mem_cons_self))
      fun later member => others later (List.mem_cons_of_mem _ member)

end

end RosClient
