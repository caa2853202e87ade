import RosClient.Proofs.Session.Basic

namespace RosClient

open Session

section

variable {γ : Type} {frame : Session → γ}

theorem store_frame {α : Type} {session : Session} {action : Action α}
    {put : Session → α → Session} (state : ∀ after, frame { session with state := after } =
      frame session)
    (stored : ∀ other result, frame (put other result) = frame other) :
    frame (session.store action put).2 = frame session := by
  rw [store_snd]
  split
  · exact (stored _ _).trans (state _)
  · exact state _

theorem respond_frame {α : Type} {session : Session} {action : Action α} {value : α → Value}
    (state : ∀ after, frame { session with state := after } = frame session) :
    frame (session.respond action value).2 = frame session := by
  rw [respond_snd]
  exact state _

theorem ContextStep.perform_frame (frame : Session → γ) {slot : Slot}
    (state : ∀ session after, frame { session with state := after } = frame session)
    (put : ∀ session held, frame (Session.putContext session slot held) = frame session)
    (erase : ∀ session : Session,
      frame { session with contexts := session.contexts.erase slot } = frame session)
    (session : Session) (step : ContextStep) :
    frame (step.perform slot session).2 = frame session := by
  have made (owned : Bool) (action : Action Handle) :
      frame (session.makeContext slot owned action).2 = frame session := by
    unfold Session.makeContext
    split
    · rfl
    · exact store_frame (state session) fun other _ => put other _
  cases step with
  | create => exact made false _
  | new arguments domain => exact made true _
  | newFromEnvironment arguments => exact made true _
  | use request =>
    have looked : frame (session.context slot).2 = frame session := by
      unfold Session.context
      split
      · rfl
      · exact put session _
    refine Eq.trans ?_ looked
    cases request with
    | init | shutdown | domainId | unparsed => exact respond_frame (state _)
    | dispose => exact store_frame (state _) fun other _ => put other _
    | isValid | instanceId | handle => rfl
    | roundTrip =>
      simp only [ContextStep.perform, ContextRequest.perform]
      split <;> rfl
  | drop =>
    simp only [ContextStep.perform, Session.dropContext]
    split
    · exact (erase _).trans (state session _)
    · exact erase session

theorem ClockRequest.perform_frame (frame : Session → γ)
    (state : ∀ session after, frame { session with state := after } = frame session)
    (held : HeldClock) (session : Session) (request : ClockRequest) :
    frame (request.perform held session).2 = frame session := by
  cases request with
  | rawNow | rawSet | isOverrideEnabled | switchOverride => exact respond_frame (state session)
  | now =>
    simp only [ClockRequest.perform, Session.askOwned]
    split
    · exact respond_frame (state session)
    · rfl
  | type =>
    simp only [ClockRequest.perform, Session.askOwned]
    split <;> rfl
  | set time =>
    simp only [ClockRequest.perform, Session.askOwned]
    split
    · split
      · exact respond_frame (state session)
      · rfl
    · rfl
  | handle => rfl
  | roundTrip =>
    simp only [ClockRequest.perform]
    split <;> rfl

theorem ClockStep.perform_frame (frame : Session → γ) {slot : Slot}
    (state : ∀ session after, frame { session with state := after } = frame session)
    (put : ∀ session held, frame (Session.putClock session slot held) = frame session)
    (erase : ∀ session : Session,
      frame { session with clocks := session.clocks.erase slot } = frame session)
    (session : Session) (step : ClockStep) :
    frame (step.perform slot session).2 = frame session := by
  have made (typeName : String) (owned : Bool) :
      frame (session.makeClock slot typeName owned).2 = frame session := by
    unfold Session.makeClock
    split
    · rfl
    · split
      · rfl
      · exact store_frame (state session) fun other _ => put other _
  have looked : frame (session.clock slot).2 = frame session := by
    unfold Session.clock
    split
    · rfl
    · exact put session _
  cases step with
  | create typeName => exact made typeName false
  | new typeName => exact made typeName true
  | use request => exact (request.perform_frame frame state _ _).trans looked
  | dispose =>
    simp only [ClockStep.perform]
    split
    · rfl
    · exact (store_frame (state _) fun other _ => put other _ :
        frame (session.disposeClock slot).2 = frame (session.clock slot).2).trans looked
  | drop =>
    simp only [ClockStep.perform, Session.dropClock]
    split
    · rfl
    · split
      · exact (erase _).trans (state session _)
      · exact erase session

theorem TimerRequest.perform_frame (frame : Session → γ)
    (state : ∀ session after, frame { session with state := after } = frame session)
    (place : Place) (session : Session) (request : TimerRequest) :
    frame (request.perform place session).2 = frame session := by
  cases request with
  | isReady | isCanceled | reset | cancel | untilNextCall | sinceLastCall | period | exchangePeriod
  | setPeriod => exact respond_frame (state session)
  | call =>
    have called : frame (session.act (TimerHandle.call place)).2 = frame session := by
      rw [state_act]
      exact state session _
    simp only [TimerRequest.perform]
    split
    · next ended =>
      rw [ended] at called
      exact called
    · next ended =>
      rw [ended] at called
      exact called

/-- A step on timers leaves what shows neither the state nor its own slot, and in which a look at a
context or a clock does not show either. -/
theorem TimerStep.perform_frame (frame : Session → γ) {slot : Slot}
    (state : ∀ session after, frame { session with state := after } = frame session)
    (put : ∀ session held, frame (Session.putTimer session slot held) = frame session)
    (erase : ∀ session : Session,
      frame { session with timers := session.timers.erase slot } = frame session)
    (contexts : ∀ session context, frame (Session.context session context).2 = frame session)
    (clocks : ∀ session clock, frame (Session.clock session clock).2 = frame session)
    (session : Session) (step : TimerStep) :
    frame (step.perform slot session).2 = frame session := by
  have stored (session : Session) (clock : Slot) (owned : Bool) (action : Action Handle) :
      frame (session.storeTimer slot clock owned action).2 = frame session :=
    store_frame (state session) fun other _ => put other _
  have looked : frame (session.timer slot).2 = frame session := by
    unfold Session.timer
    split
    · rfl
    · exact put session _
  cases step with
  | create clock context period =>
    simp only [TimerStep.perform, Session.makeTimer]
    split
    · rfl
    · rw [stored, clocks, contexts]
  | new clock context period function =>
    simp only [TimerStep.perform, Session.makeOwnedTimer]
    split
    · rfl
    · split
      · split <;> rw [stored, clocks, contexts]
      · simp only [Session.refuse, clocks, contexts]
  | use request =>
    simp only [TimerStep.perform]
    split
    · exact (request.perform_frame frame state _ _).trans looked
    · exact looked
  | hasCallback =>
    simp only [TimerStep.perform]
    split <;> exact looked
  | handle => exact looked
  | dispose =>
    exact (store_frame (state _) fun other _ => put other _ :
      frame (session.disposeTimer slot).2 = frame (session.timer slot).2).trans looked
  | drop =>
    simp only [TimerStep.perform, Session.dropTimer]
    split
    · rfl
    · exact (erase { session with state := _ }).trans (state session _)

theorem SourceStep.perform_frame (frame : Session → γ) {slot : Slot}
    (state : ∀ session after, frame { session with state := after } = frame session)
    (put : ∀ session source, frame (Session.putSource session slot source) = frame session)
    (erase : ∀ session : Session,
      frame { session with sources := session.sources.erase slot } = frame session)
    (session : Session) (step : SourceStep) :
    frame (step.perform slot session).2 = frame session := by
  have made (active : Bool) : frame (session.makeSource slot active).2 = frame session := by
    unfold Session.makeSource
    split
    · rfl
    · exact put session _
  cases step with
  | new active => exact made active
  | newFromEnvironment => exact made _
  | use request =>
    simp only [SourceStep.perform]
    split
    · cases request with
      | isActive | clockCount | last => rfl
      | setActive active =>
        simp only [SourceRequest.perform]
        split
        · rfl
        · exact (respond_frame (state _)).trans (put session _)
      | update time =>
        simp only [SourceRequest.perform]
        split
        · rfl
        · exact (respond_frame (state _)).trans (put session _)
      | attach clock =>
        simp only [SourceRequest.perform]
        split
        · rfl
        · exact store_frame (state session) fun other _ => put other _
      | detach clock =>
        simp only [SourceRequest.perform]
        split
        · rfl
        · exact put session _
    · rfl
  | drop => exact erase session

end

/-- The kinds of objects in the slots of a session. -/
inductive ObjectKind where
  | context
  | clock
  | timer
  | source
  deriving DecidableEq

/-- Whether a step is on objects of a kind. -/
def Step.isOn (kind : ObjectKind) : Step → Bool
  | context _ _ => kind = .context
  | clock _ _ => kind = .clock
  | timer _ _ => kind = .timer
  | source _ _ => kind = .source
  | operation _ | startLogging => false

namespace Step

theorem heldContext_perform (step : Step) (session : Session) (other : step.isOn .context = false) :
    (step.perform session).2.heldContext = session.heldContext := by
  cases step with
  | context slot step => exact Bool.noConfusion other
  | clock slot step =>
    exact step.perform_frame (·.heldContext) (fun _ _ => rfl) (fun _ _ => rfl) (fun _ => rfl)
      session
  | timer slot step =>
    exact step.perform_frame (·.heldContext) (fun _ _ => rfl) (fun _ _ => rfl) (fun _ => rfl)
      heldContext_context heldContext_clock session
  | source slot step =>
    exact step.perform_frame (·.heldContext) (fun _ _ => rfl) (fun _ _ => rfl) (fun _ => rfl)
      session
  | operation | startLogging => rfl

theorem heldClock_perform (step : Step) (session : Session) (other : step.isOn .clock = false) :
    (step.perform session).2.heldClock = session.heldClock := by
  cases step with
  | context slot step =>
    exact step.perform_frame (·.heldClock) (fun _ _ => rfl) (fun _ _ => rfl) (fun _ => rfl) session
  | clock slot step => exact Bool.noConfusion other
  | timer slot step =>
    exact step.perform_frame (·.heldClock) (fun _ _ => rfl) (fun _ _ => rfl) (fun _ => rfl)
      heldClock_context heldClock_clock session
  | source slot step =>
    exact step.perform_frame (·.heldClock) (fun _ _ => rfl) (fun _ _ => rfl) (fun _ => rfl) session
  | operation | startLogging => rfl

theorem heldTimer_perform (step : Step) (session : Session) (other : step.isOn .timer = false) :
    (step.perform session).2.heldTimer = session.heldTimer := by
  cases step with
  | context slot step =>
    exact step.perform_frame (·.heldTimer) (fun _ _ => rfl) (fun _ _ => rfl) (fun _ => rfl) session
  | clock slot step =>
    exact step.perform_frame (·.heldTimer) (fun _ _ => rfl) (fun _ _ => rfl) (fun _ => rfl) session
  | timer slot step => exact Bool.noConfusion other
  | source slot step =>
    exact step.perform_frame (·.heldTimer) (fun _ _ => rfl) (fun _ _ => rfl) (fun _ => rfl) session
  | operation | startLogging => rfl

theorem sources_perform (step : Step) (session : Session) (other : step.isOn .source = false) :
    (step.perform session).2.sources = session.sources := by
  cases step with
  | context slot step =>
    exact step.perform_frame (·.sources) (fun _ _ => rfl) (fun _ _ => rfl) (fun _ => rfl) session
  | clock slot step =>
    exact step.perform_frame (·.sources) (fun _ _ => rfl) (fun _ _ => rfl) (fun _ => rfl) session
  | timer slot step =>
    exact step.perform_frame (·.sources) (fun _ _ => rfl) (fun _ _ => rfl) (fun _ => rfl)
      sources_context sources_clock session
  | source slot step => exact Bool.noConfusion other
  | operation | startLogging => rfl

end Step

end RosClient
