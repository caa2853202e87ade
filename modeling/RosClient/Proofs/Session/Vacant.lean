import RosClient.Proofs.Context.Init
import RosClient.Proofs.Session.Deed

namespace RosClient

open Objects (Hides)

/-- Whether options live at the transient place. -/
def Objects.transient (objects : Objects) : Option InitOptions :=
  objects.options .transient

theorem transient_hides_options (slot : Option Slot) :
    Hides Objects.transient Objects.setOptions (pointerTo slot) := by
  intro objects place options here
  refine replace_of_ne objects.options options ?_
  rintro rfl
  exact pointerTo_ne (fun _ => Place.noConfusion) slot here

theorem State.IsVacant.of_same {before after : State} (vacant : before.IsVacant)
    (same : after.objects.transient = before.objects.transient) : after.IsVacant :=
  same.trans vacant

theorem Operation.perform_transient (operation : Operation) (state : State) :
    (operation.perform state).state.objects.transient = state.objects.transient := by
  apply operation.perform_keeps state Objects.transient
  cases operation with
  | options slot request => exact transient_hides_options slot
  | initContext | context | clock | initTimer | timer => exact fun _ _ _ _ => rfl
  | errorIsSet | errorText | resetError | setVariable | refuse | otherThread | installLogger =>
    trivial

variable {session : Session}

theorem makeContext_isVacant (vacant : session.state.IsVacant) {action : Action Handle}
    (clean : (stateOf (action session.state)).IsVacant) (slot : Slot) (owned : Bool) :
    (session.makeContext slot owned action).2.state.IsVacant := by
  unfold Session.makeContext
  split
  · exact vacant
  · change (session.store action _).2.state.IsVacant
    rw [Session.store_snd]
    cases ended : action session.state <;> rw [ended] at clean <;> exact clean

theorem ContextRequest.perform_isVacant (vacant : session.state.IsVacant) (slot : Slot)
    (held : HeldContext) (request : ContextRequest) :
    (request.perform slot held session).2.state.IsVacant := by
  have hidden : Hides Objects.transient Objects.setContextAndId held.handle := fun _ _ _ _ => rfl
  cases request with
  | init arguments domain =>
    change (session.respond (ContextHandle.init held.handle arguments domain) _).2.state.IsVacant
    rw [Session.respond_snd]
    exact ContextHandle.init_isVacant vacant held.handle arguments domain
  | shutdown => exact vacant.of_same (session.respond_keeps (ContextHandle.shutdown_keeps hidden) _)
  | dispose =>
    exact vacant.of_same
      (session.store_keeps (ContextHandle.dispose_keeps hidden) _ fun _ _ => rfl)
  | domainId => exact vacant.of_same (session.respond_keeps (ContextHandle.domain_keeps _) _)
  | unparsed => exact vacant.of_same (session.respond_keeps (ContextHandle.unparsed_keeps _) _)
  | isValid | instanceId | handle => exact vacant
  | roundTrip =>
    simp only [ContextRequest.perform]
    split <;> exact vacant

theorem ContextStep.perform_isVacant (vacant : session.state.IsVacant) (slot : Slot)
    (step : ContextStep) : (step.perform slot session).2.state.IsVacant := by
  cases step with
  | create =>
    exact makeContext_isVacant vacant
      (vacant.of_same (ContextHandle.create_keeps (fun _ _ _ _ => rfl) session.state)) slot false
  | new arguments domain =>
    exact makeContext_isVacant vacant (ContextHandle.new_isVacant vacant slot arguments domain) slot
      true
  | newFromEnvironment arguments =>
    exact makeContext_isVacant vacant (ContextHandle.new_isVacant vacant slot arguments _) slot true
  | use request =>
    have looked : (session.context slot).2.state.IsVacant := by
      rw [Session.state_context]
      exact vacant
    exact request.perform_isVacant looked slot _
  | drop => exact vacant.of_same (dropContext_keeps fun _ _ _ _ => rfl)

theorem Step.performAlone_isVacant (vacant : session.state.IsVacant) (deed : Step) :
    (deed.performAlone session).state.IsVacant := by
  cases deed with
  | operation asked => exact vacant.of_same (asked.perform_transient session.state)
  | context slot step => exact step.perform_isVacant vacant slot
  | clock slot step =>
    exact vacant.of_same
      (step.perform_keeps Objects.transient (fun _ _ _ _ => rfl) fun _ _ _ _ => rfl)
  | timer slot step =>
    exact vacant.of_same
      (step.perform_keeps Objects.transient (fun _ _ _ _ => rfl) fun _ _ _ _ => rfl)
  | source slot step =>
    have kept (clock : Handle) : Verdict.KeptByOverrides Objects.transient clock :=
      Verdict.keptByOverrides_of_hides fun _ _ _ _ => rfl
    exact vacant.of_same
      (step.perform_keeps Objects.transient slot (fun _ _ _ _ => kept _) fun _ _ _ _ => kept _)
  | startLogging => exact vacant

/-- At every instant of a session, the place of transient options is free. -/
theorem afterDeeds_start_isVacant (depth : Nat) (environment : Environment)
    (readings : Nat → RealTime) (deeds : List Step) :
    ((Session.start depth environment readings).afterDeeds deeds).state.IsVacant := by
  have kept (before : Session) (deed : Step) (vacant : before.state.IsVacant) :
      (deed.performAlone before).state.IsVacant :=
    deed.performAlone_isVacant vacant
  have start : (Session.start depth environment readings).state.IsVacant := rfl
  exact Session.afterDeeds_induction start kept deeds

theorem after_start_isVacant (depth : Nat) (environment : Environment) (readings : Nat → RealTime)
    (steps : List Step) :
    ((Session.start depth environment readings).after steps).state.IsVacant := by
  rw [← Session.afterDeeds_deeds]
  exact afterDeeds_start_isVacant depth environment readings _

end RosClient
