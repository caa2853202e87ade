import RosClient.Proofs.Context.Handle
import RosClient.Proofs.Session.Deed

namespace RosClient

namespace Session

/-- The context that a name leads to: for a slot with a handle, the context behind the handle. -/
def contextIn (session : Session) : Place → Option Context
  | .handle slot => session.state.objects.contextAt (session.heldContext slot).handle
  | place => session.state.objects.contexts place

def contextView (session : Session) : ContextView :=
  ⟨session.contextIn, session.state.objects.nextId⟩

/-- Every handle to a context leads to the place of its slot. -/
def HasOwnContexts (session : Session) : Prop :=
  ∀ slot place, (session.heldContext slot).handle = some place → place = .handle slot

end Session

/-- The event that a request is if it goes through. -/
def ContextRequest.event : ContextRequest → Option ContextEvent
  | init _ _ => some .init
  | shutdown => some .shutdown
  | dispose => some .release
  | isValid | instanceId | domainId | unparsed | handle | roundTrip => none

/-- The event that a step with an answer is. -/
def ContextStep.event (answer : StepAnswer) : ContextStep → Option ContextEvent
  | create => none
  | new _ _ | newFromEnvironment _ => if answer.isOk then some .init else none
  | use request => if answer.isOk then request.event else none
  | drop => some .release

/-- The event that an instant is, and for which context. -/
def Instant.contextEvent (instant : Instant) : Option (Place × ContextEvent) :=
  match instant.deed with
  | .operation asked => Moment.contextEvent ⟨instant.session.state, asked⟩
  | .context slot step =>
    (step.event (step.perform slot instant.session).1).map fun event => (.handle slot, event)
  | .clock _ _ | .timer _ _ | .source _ _ | .startLogging => none

open Session

section

variable {before after session : Session} {slot : Slot}

/-- How the context of a slot and the next instance id change by an event, or by none. -/
structure OwnChange (before after : Session) (slot : Slot) (event : Option ContextEvent) :
    Prop where
  own : ∀ place, (after.heldContext slot).handle = some place → place = .handle slot
  made : event.elim (after.contextIn (.handle slot) = before.contextIn (.handle slot)) fun event =>
    event.Makes before.state.objects.nextId (before.contextIn (.handle slot))
      (after.contextIn (.handle slot))
  nextId : after.state.objects.nextId = before.state.objects.nextId + event.elim 0 ContextEvent.ids

theorem contextIn_handle (here : (session.heldContext slot).handle = some (.handle slot)) :
    session.contextIn (.handle slot) = session.state.objects.contexts (.handle slot) := by
  rw [contextIn, here]
  rfl

theorem contextIn_empty (empty : (session.heldContext slot).handle = none) :
    session.contextIn (.handle slot) = none := by
  rw [contextIn, empty]
  rfl

theorem ownChange_of_still (own : before.HasOwnContexts)
    (held : after.heldContext slot = before.heldContext slot)
    (same : after.contextIn (.handle slot) = before.contextIn (.handle slot))
    (counted : after.state.objects.nextId = before.state.objects.nextId) :
    OwnChange before after slot none where
  own place here := own slot place (held ▸ here)
  made := same
  nextId := counted

theorem ownChange_of_same (own : before.HasOwnContexts)
    (held : after.heldContext slot = before.heldContext slot)
    (same : after.state.objects.contextView = before.state.objects.contextView) :
    OwnChange before after slot none := by
  have contexts : after.state.objects.contexts = before.state.objects.contexts :=
    congrArg ContextView.context same
  refine ownChange_of_still own held ?_ (congrArg ContextView.nextId same)
  simp only [contextIn, Objects.contextAt, held, contexts]

/-- An event at the place of a slot is one for the context behind the handle in it. -/
theorem ownChange_of_change {event : ContextEvent}
    (here : (before.heldContext slot).handle = some (.handle slot))
    (held : after.heldContext slot = before.heldContext slot)
    (change : ContextChange before.state.objects.contextView after.state.objects.contextView
      (some (.handle slot, event))) : OwnChange before after slot (some event) where
  own place there := by
    rw [held, here] at there
    exact (Option.some.inj there).symm
  made := by
    change event.Makes _ _ _
    rw [contextIn_handle here, contextIn_handle (held ▸ here)]
    cases change with
    | happens made => exact made
  nextId := by
    cases change with
    | happens _ _ counted => exact counted

theorem ownChange_of_emptied (empty : (after.heldContext slot).handle = none)
    (counted : after.state.objects.nextId = before.state.objects.nextId) :
    OwnChange before after slot (some .release) where
  own place here := by
    rw [empty] at here
    cases here
  made := contextIn_empty empty
  nextId := counted

theorem nextId_of_release {before after : ContextView} {place : Place}
    (change : ContextChange before after (some (place, .release))) :
    after.nextId = before.nextId := by
  cases change with
  | happens _ _ counted => exact counted

theorem heldContext_of_unused (unused : session.contexts.get? slot = none) :
    session.heldContext slot = .empty := by
  rw [heldContext, unused]
  rfl

theorem heldContext_putContext_self (session : Session) (slot : Slot) (held : HeldContext) :
    (session.putContext slot held).heldContext slot = held := by
  rw [heldContext, putContext, Slots.get?_put_self]
  rfl

theorem heldContext_putContext_of_ne (session : Session) {slot other : Slot} (held : HeldContext)
    (apart : slot ≠ other) :
    (session.putContext other held).heldContext slot = session.heldContext slot := by
  rw [heldContext, putContext, Slots.get?_put_of_ne _ _ apart]
  rfl

theorem createContext_ownChange (own : session.HasOwnContexts) :
    OwnChange session (session.makeContext slot false (ContextHandle.create slot)).2 slot none := by
  unfold makeContext
  split
  · exact ownChange_of_same own rfl rfl
  · next free =>
    rw [Option.not_isSome_iff_eq_none] at free
    have ended : ContextHandle.create slot session.state = .ok (some (.handle slot)) _ :=
      bind_of_ok rfl
    rw [respondStore_of_ok ended]
    refine ⟨?_, ?_, rfl⟩
    · intro place here
      rw [heldContext_putContext_self] at here
      exact (Option.some.inj here).symm
    · have empty : (session.heldContext slot).handle = none := by
        rw [heldContext_of_unused free]
        rfl
      change contextIn _ _ = _
      rw [contextIn_empty empty, contextIn_handle (by rw [heldContext_putContext_self])]
      exact replace_self _ _ _

theorem newContext_ownChange (own : session.HasOwnContexts) (arguments : List String)
    (domain : Option DomainId) :
    OwnChange session
      (session.makeContext slot true (ContextHandle.new slot arguments domain)).2 slot
      (if (session.makeContext slot true (ContextHandle.new slot arguments domain)).1.isOk then
        some .init else none) := by
  unfold makeContext
  split
  · exact ownChange_of_same own rfl rfl
  · next free =>
    rw [Option.not_isSome_iff_eq_none] at free
    have empty : (session.heldContext slot).handle = none := by
      rw [heldContext_of_unused free]
      rfl
    rcases ContextHandle.new_change slot arguments domain session.state with
      ⟨e, after, ended, change⟩ | ⟨middle, after, ended, cleared, change⟩
    · rw [respondStore_of_error ended]
      have gone : session.contextIn (.handle slot) = none := contextIn_empty empty
      refine ownChange_of_still own rfl ?_ (nextId_of_release change)
      rw [gone]
      exact contextIn_empty empty
    · rw [respondStore_of_ok ended]
      cases cleared with
      | happens _ _ countedFirst =>
        cases change with
        | happens made _ counted =>
          obtain ⟨_, domain, arguments, stored⟩ := made
          have here : ((putContext { session with state := after } slot
              ⟨some (.handle slot), true⟩).heldContext slot).handle = some (.handle slot) := by
            rw [heldContext_putContext_self]
          refine ⟨?_, ⟨contextIn_empty empty, domain, arguments, ?_⟩, ?_⟩
          · intro place there
            exact (Option.some.inj (here.symm.trans there)).symm
          · rw [contextIn_handle here]
            have first : middle.nextId = session.state.objects.nextId := countedFirst
            exact first ▸ stored
          · exact counted.trans (congrArg (· + 1) countedFirst)

theorem initContext_ownChange (own : session.HasOwnContexts) (arguments : List String)
    (domain : Option DomainId) :
    OwnChange session (session.respondUnit
      (ContextHandle.init (session.heldContext slot).handle arguments domain)).2 slot
      (if (session.respondUnit
        (ContextHandle.init (session.heldContext slot).handle arguments domain)).1.isOk then
        some .init else none) := by
  unfold respondUnit
  rcases ContextHandle.init_change (session.heldContext slot).handle arguments domain
    session.state with ⟨e, after, ended, same⟩ | ⟨place, after, here, ended, change⟩
  · rw [respond_of_error ended]
    exact ownChange_of_same own rfl same
  · rw [respond_of_ok ended]
    cases own slot place here
    exact ownChange_of_change here rfl change

theorem shutdownContext_ownChange (own : session.HasOwnContexts) :
    OwnChange session
      (session.respondUnit (ContextHandle.shutdown (session.heldContext slot).handle)).2 slot
      (if (session.respondUnit
        (ContextHandle.shutdown (session.heldContext slot).handle)).1.isOk then
        some .shutdown else none) := by
  unfold respondUnit
  cases here : (session.heldContext slot).handle with
  | none =>
    have ended : ContextHandle.shutdown none session.state = .ok () session.state := rfl
    rw [respond_of_ok ended]
    have gone : session.contextIn (.handle slot) = none := contextIn_empty here
    refine ⟨own slot, ?_, rfl⟩
    change session.contextIn (.handle slot) =
      (session.contextIn (.handle slot)).map Context.shutDown
    rw [gone]
    rfl
  | some place =>
    cases own slot place here
    obtain ⟨after, ended, change⟩ := ContextHandle.shutdown_change (.handle slot) session.state
    rw [respond_of_ok ended]
    exact ownChange_of_change here rfl change

theorem disposeContext_ownChange (own : session.HasOwnContexts) :
    OwnChange session
      (session.respondStore (ContextHandle.dispose (session.heldContext slot).handle)
        fun after handle => after.putContext slot { session.heldContext slot with handle }).2 slot
      (if (session.respondStore (ContextHandle.dispose (session.heldContext slot).handle)
        fun after handle =>
          after.putContext slot { session.heldContext slot with handle }).1.isOk then
        some .release else none) := by
  have emptied (after : State) :
      ((putContext { session with state := after } slot
        { session.heldContext slot with handle := none }).heldContext slot).handle = none := by
    rw [heldContext_putContext_self]
  cases here : (session.heldContext slot).handle with
  | none =>
    have ended : ContextHandle.dispose none session.state = .ok none session.state := rfl
    rw [respondStore_of_ok ended]
    exact ownChange_of_emptied (emptied _) rfl
  | some place =>
    cases own slot place here
    rcases ContextHandle.dispose_change (.handle slot) session.state with
      ⟨context, e, after, _, _, ended, same⟩ | ⟨after, ended, change⟩
    · rw [respondStore_of_error ended]
      exact ownChange_of_same own rfl same
    · rw [respondStore_of_ok ended]
      exact ownChange_of_emptied (emptied _) (nextId_of_release change)

theorem useContext_ownChange (own : session.HasOwnContexts) (slot : Slot)
    (request : ContextRequest) :
    OwnChange session (request.perform slot (session.heldContext slot) session).2 slot
      ((ContextStep.use request).event
        (request.perform slot (session.heldContext slot) session).1) := by
  have quiet {view : Type} {action : Action view} {value : view → Value}
      (keeps : Keeps Objects.contextView action) :
      OwnChange session (session.respond action value).2 slot none := by
    refine ownChange_of_same own ?_ (session.respond_keeps keeps value)
    rw [respond_snd]
    rfl
  cases request with
  | init arguments domain => exact initContext_ownChange own arguments domain
  | shutdown => exact shutdownContext_ownChange own
  | dispose => exact disposeContext_ownChange own
  | domainId =>
    simp only [ContextStep.event, ContextRequest.event, ite_self]
    exact quiet (ContextHandle.domain_keeps _)
  | unparsed =>
    simp only [ContextStep.event, ContextRequest.event, ite_self]
    exact quiet (ContextHandle.unparsed_keeps _)
  | isValid | instanceId => exact ownChange_of_same own rfl rfl
  | handle => exact ownChange_of_same own rfl rfl
  | roundTrip =>
    simp only [ContextStep.event, ContextRequest.event, ContextRequest.perform]
    split <;> exact ownChange_of_same own rfl rfl

theorem dropContext_ownChange :
    OwnChange session (session.dropContext slot) slot (some .release) := by
  unfold dropContext
  apply ownChange_of_emptied
  · rw [heldContext, Slots.get?_erase_self]
    rfl
  · split
    · next handle present =>
      cases handle with
      | none => rfl
      | some place => exact nextId_of_release (ContextHandle.release_change place session.state)
    · rfl

theorem OwnChange.of_looked {event : Option ContextEvent}
    (change : OwnChange (session.context slot).2 after slot event) :
    OwnChange session after slot event := by
  have same : (session.context slot).2.contextIn = session.contextIn := by
    funext place
    unfold contextIn
    rw [heldContext_context, state_context]
  obtain ⟨own, made, counted⟩ := change
  rw [state_context] at made counted
  rw [same] at made
  exact ⟨own, made, counted⟩

theorem ContextStep.ownChange (own : session.HasOwnContexts) (slot : Slot) (step : ContextStep) :
    OwnChange session (step.perform slot session).2 slot
      (step.event (step.perform slot session).1) := by
  cases step with
  | create => exact createContext_ownChange own
  | new arguments domain => exact newContext_ownChange own arguments domain
  | newFromEnvironment arguments => exact newContext_ownChange own arguments _
  | use request =>
    have looked : (session.context slot).2.HasOwnContexts := by
      unfold HasOwnContexts
      rw [heldContext_context]
      exact own
    have change := useContext_ownChange looked slot request
    rw [heldContext_context, ← context_fst] at change
    exact change.of_looked
  | drop => exact dropContext_ownChange

theorem ContextStep.heldContext_perform_of_ne (session : Session) {target : Slot}
    (apart : slot ≠ target) (step : ContextStep) :
    (step.perform target session).2.heldContext slot = session.heldContext slot := by
  refine step.perform_frame (·.heldContext slot) (fun _ _ => rfl)
    (fun session held => heldContext_putContext_of_ne session held apart) ?_ session
  intro session
  unfold heldContext
  rw [Slots.get?_erase_of_ne _ apart]

theorem ContextStep.contexts_perform_of_ne (own : session.HasOwnContexts) {place : Place}
    (apart : place ≠ .handle slot) (step : ContextStep) :
    (step.perform slot session).2.state.objects.contexts place =
      session.state.objects.contexts place := by
  refine step.perform_keeps (·.contexts place) (fun _ _ _ _ => rfl) ?_ ?_
  · exact Objects.hides_context_of_ne fun same => apart (Option.some.inj same).symm
  · exact Objects.hides_context_of_ne fun here => apart (own slot place here)

theorem contextIn_of_ne (own : before.HasOwnContexts) {other : Place}
    (held : ∀ slot, other = .handle slot → after.heldContext slot = before.heldContext slot)
    (contexts : after.state.objects.contexts other = before.state.objects.contexts other) :
    after.contextIn other = before.contextIn other := by
  cases other with
  | caller slot => exact contexts
  | transient => exact contexts
  | handle slot =>
    rw [contextIn, contextIn, held slot rfl]
    cases here : (before.heldContext slot).handle with
    | none => rfl
    | some place =>
      cases own slot place here
      exact contexts

theorem ContextStep.contextChange (own : session.HasOwnContexts) (slot : Slot)
    (step : ContextStep) :
    ContextChange session.contextView (step.perform slot session).2.contextView
      ((step.event (step.perform slot session).1).map fun event => (.handle slot, event)) := by
  have others (other : Place) (apart : other ≠ .handle slot) :
      (step.perform slot session).2.contextIn other = session.contextIn other := by
    apply contextIn_of_ne own
    · rintro target rfl
      exact step.heldContext_perform_of_ne session fun same => apart (congrArg _ same)
    · exact step.contexts_perform_of_ne own apart
  obtain ⟨_, made, counted⟩ := step.ownChange own slot
  cases event : step.event (step.perform slot session).1 with
  | none =>
    rw [event] at made counted
    apply ContextChange.still
    unfold contextView
    have same : (step.perform slot session).2.contextIn = session.contextIn := by
      funext other
      by_cases here : other = .handle slot
      · rw [here]
        exact made
      · exact others other here
    rw [same, counted]
    rfl
  | some event =>
    rw [event] at made counted
    exact .happens made others counted

theorem ContextStep.perform_ownContexts (own : session.HasOwnContexts) (slot : Slot)
    (step : ContextStep) : (step.perform slot session).2.HasOwnContexts := by
  intro other place here
  by_cases same : other = slot
  · subst same
    exact (step.ownChange own other).own place here
  · rw [step.heldContext_perform_of_ne session same] at here
    exact own other place here

end

theorem contextView_of_same {before after : Session} (held : after.heldContext = before.heldContext)
    (same : after.state.objects.contextView = before.state.objects.contextView) :
    after.contextView = before.contextView := by
  have contexts : after.state.objects.contexts = before.state.objects.contexts :=
    congrArg ContextView.context same
  have counted : after.state.objects.nextId = before.state.objects.nextId :=
    congrArg ContextView.nextId same
  unfold contextView
  rw [counted]
  congr 1
  funext place
  unfold contextIn Objects.contextAt
  rw [held, contexts]

/-- Operations name contexts in the slots of the caller only. -/
theorem Moment.contextEvent_caller {moment : Moment} {place : Place} {event : ContextEvent}
    (happened : moment.contextEvent = some (place, event)) : ∃ slot, place = .caller slot := by
  unfold Moment.contextEvent Operation.contextEvent at happened
  split at happened
  · split at happened
    · next slot _ =>
      cases happened
      exact ⟨slot, rfl⟩
    · next slot _ =>
      cases happened
      exact ⟨slot, rfl⟩
    · next slot _ =>
      cases happened
      exact ⟨slot, rfl⟩
    · cases happened
  · cases happened

theorem operation_contextChange {session : Session} (own : session.HasOwnContexts)
    (asked : Operation) :
    ContextChange session.contextView
      { session with state := (asked.perform session.state).state }.contextView
      (Moment.contextEvent ⟨session.state, asked⟩) := by
  have change := Moment.context_happens ⟨session.state, asked⟩
  cases event : Moment.contextEvent ⟨session.state, asked⟩ with
  | none =>
    rw [event] at change
    cases change with
    | still same => exact .still (contextView_of_same rfl same)
  | some named =>
    obtain ⟨place, event⟩ := named
    obtain ⟨slot, rfl⟩ := Moment.contextEvent_caller event
    rw [event] at change
    cases change with
    | happens made others counted =>
      exact .happens made (fun other apart => contextIn_of_ne own (fun _ _ => rfl)
        (others other apart)) counted

/-- All that an instant can do to contexts. -/
theorem Instant.contextChange {instant : Instant} (own : instant.session.HasOwnContexts) :
    ContextChange instant.session.contextView instant.after.contextView instant.contextEvent := by
  obtain ⟨session, deed⟩ := instant
  cases deed with
  | operation asked => exact operation_contextChange own asked
  | context slot step => exact step.contextChange own slot
  | clock slot step =>
    exact .still (contextView_of_same ((Step.clock slot step).heldContext_perform session rfl)
      (step.perform_keeps Objects.contextView (fun _ _ _ _ => rfl) (fun _ _ _ _ => rfl)))
  | timer slot step =>
    exact .still (contextView_of_same ((Step.timer slot step).heldContext_perform session rfl)
      (step.perform_keeps Objects.contextView (fun _ _ _ _ => rfl) (fun _ _ _ _ => rfl)))
  | source slot step =>
    have kept (clock : Handle) : Verdict.KeptByOverrides Objects.contextView clock :=
      Verdict.keptByOverrides_of_hides fun _ _ _ _ => rfl
    exact .still (contextView_of_same ((Step.source slot step).heldContext_perform session rfl)
      (step.perform_keeps Objects.contextView slot (fun _ _ _ _ => kept _) fun _ _ _ _ => kept _))
  | startLogging => exact .still (contextView_of_same rfl rfl)

theorem Step.performAlone_ownContexts {session : Session} (own : session.HasOwnContexts)
    (deed : Step) : (deed.performAlone session).HasOwnContexts := by
  have same (other : deed.isOn .context = false) : (deed.perform session).2.HasOwnContexts := by
    unfold HasOwnContexts
    rw [deed.heldContext_perform session other]
    exact own
  cases deed with
  | operation asked => exact own
  | context slot step => exact step.perform_ownContexts own slot
  | clock | timer | source | startLogging => exact same rfl

/-- At every instant of a session, every handle to a context leads to the place of its slot. -/
theorem afterDeeds_start_hasOwnContexts (depth : Nat) (environment : Environment)
    (readings : Nat → RealTime) (deeds : List Step) :
    ((start depth environment readings).afterDeeds deeds).HasOwnContexts := by
  have fresh : (start depth environment readings).HasOwnContexts := fun _ _ here => nomatch here
  exact afterDeeds_induction fresh (fun _ deed own => deed.performAlone_ownContexts own) deeds

theorem after_start_hasOwnContexts (depth : Nat) (environment : Environment)
    (readings : Nat → RealTime) (steps : List Step) :
    ((start depth environment readings).after steps).HasOwnContexts := by
  rw [← afterDeeds_deeds]
  exact afterDeeds_start_hasOwnContexts depth environment readings _

end RosClient
