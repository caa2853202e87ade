import RosClient.Proofs.Operation.Objects
import RosClient.Proofs.Run.Moment

namespace RosClient

inductive ContextEvent where
  | init
  | shutdown
  | release
  deriving DecidableEq

namespace ContextEvent

/-- The event that follows in the life of a context. -/
def next : ContextEvent → ContextEvent
  | init => shutdown
  | shutdown => release
  | release => init

/-- The event that a context has behind it. -/
def behind : Option Context → ContextEvent
  | none => release
  | some context => if context.isValid then init else shutdown

/-- How many instance ids an event takes. -/
def ids : ContextEvent → Nat
  | init => 1
  | shutdown | release => 0

/-- What an event makes of a context when an instance id is next. -/
def Makes (id : Nat) (before after : Option Context) : ContextEvent → Prop
  | init => before = none ∧ ∃ domain arguments, after = some ⟨some id, domain, arguments⟩
  | shutdown => after = before.map Context.shutDown
  | release => after = none

theorem Makes.behind {id : Nat} {before after : Option Context} {event : ContextEvent}
    (makes : event.Makes id before after) (follows : event = (behind before).next) :
    behind after = event := by
  cases event with
  | init =>
    obtain ⟨_, domain, arguments, rfl⟩ := makes
    rfl
  | release =>
    cases makes
    rfl
  | shutdown =>
    cases before with
    | none => cases follows
    | some context =>
      cases makes
      rfl

end ContextEvent

/-- Contexts under their names, and the next instance id. -/
structure ContextView where
  context : Place → Option Context
  nextId : Nat

def Objects.contextView (objects : Objects) : ContextView :=
  ⟨objects.contexts, objects.nextId⟩

/-- How contexts and the next instance id change by an event, or by none. -/
inductive ContextChange (before after : ContextView) : Option (Place × ContextEvent) → Prop where
  | still (same : after = before) : ContextChange before after none
  | happens {place : Place} {event : ContextEvent}
    (made : event.Makes before.nextId (before.context place) (after.context place))
    (others : ∀ other, other ≠ place → after.context other = before.context other)
    (nextId : after.nextId = before.nextId + event.ids) :
    ContextChange before after (some (place, event))

/-- The event that an operation is, and for which context, if it goes through. -/
def Operation.contextEvent : Operation → Option (Place × ContextEvent)
  | initContext _ _ _ (some slot) => some (.caller slot, .init)
  | context (some slot) .shutdown => some (.caller slot, .shutdown)
  | context (some slot) .fini => some (.caller slot, .release)
  | _ => none

/-- The event that a moment is, and for which context: none if the operation is refused. -/
def Moment.contextEvent (moment : Moment) : Option (Place × ContextEvent) :=
  if moment.answer.isOk then moment.operation.contextEvent else none

section

variable {state : State}

theorem contextChange_of_same {before after : Objects} (same : after = before) :
    ContextChange before.contextView after.contextView none :=
  .still (congrArg Objects.contextView same)

theorem initContext_change {count : Int} {vector : Option (List (Option (List UInt8)))}
    {options : Option Place} {place : Place} {commit : Commit Unit}
    (accepted : Verdict.initContext count vector options (some place) state = .ok commit) :
    ContextChange state.objects.contextView commit.objects.contextView
      (some (place, .init)) := by
  obtain ⟨_, _, here, _, _, _, absent, _, _, domain, arguments, _, rfl⟩ :=
    Verdict.initContext_eq_ok.mp accepted
  cases here
  exact .happens ⟨absent, domain, arguments, replace_self _ _ _⟩
    (fun other apart => replace_of_ne _ _ apart) rfl

theorem shutdownContext_change {place : Place} {commit : Commit Unit}
    (accepted : Verdict.shutdownContext (some place) state = .ok commit) :
    ContextChange state.objects.contextView commit.objects.contextView
      (some (place, .shutdown)) := by
  obtain ⟨_, found, ⟨here, present⟩, _, _, rfl⟩ := Verdict.shutdownContext_eq_ok.mp accepted
  cases here
  have made : replace state.objects.contexts place (some found.shutDown) place =
      (state.objects.contexts place).map Context.shutDown := by
    rw [present]
    exact replace_self _ _ _
  exact .happens made (fun other apart => replace_of_ne _ _ apart) rfl

theorem finiContext_change {place : Place} {commit : Commit Unit}
    (accepted : Verdict.finiContext (some place) state = .ok commit) :
    ContextChange state.objects.contextView commit.objects.contextView
      (some (place, .release)) := by
  obtain ⟨_, found, ⟨here, present⟩, _, rfl⟩ := Verdict.finiContext_eq_ok.mp accepted
  cases here
  exact .happens (replace_self _ _ _) (fun other apart => replace_of_ne _ _ apart) rfl

theorem initContext_behind {count : Int} {vector : Option (List (Option (List UInt8)))}
    {options : Option Place} {place : Place} {commit : Commit Unit}
    (accepted : Verdict.initContext count vector options (some place) state = .ok commit) :
    ContextEvent.behind (state.objects.contexts place) = .release := by
  obtain ⟨_, _, here, _, _, _, absent, _⟩ := Verdict.initContext_eq_ok.mp accepted
  cases here
  rw [absent]
  rfl

theorem shutdownContext_behind {place : Place} {commit : Commit Unit}
    (accepted : Verdict.shutdownContext (some place) state = .ok commit) :
    ContextEvent.behind (state.objects.contexts place) = .init := by
  obtain ⟨_, found, ⟨here, present⟩, id, alive, _⟩ := Verdict.shutdownContext_eq_ok.mp accepted
  cases here
  rw [present]
  simp only [ContextEvent.behind, Context.isValid, alive, Option.isSome_some, ↓reduceIte]

theorem finiContext_behind {place : Place} {commit : Commit Unit}
    (accepted : Verdict.finiContext (some place) state = .ok commit) :
    ContextEvent.behind (state.objects.contexts place) = .shutdown := by
  obtain ⟨_, found, ⟨here, present⟩, invalid, _⟩ := Verdict.finiContext_eq_ok.mp accepted
  cases here
  rw [present]
  simp only [ContextEvent.behind, invalid, Bool.false_eq_true, ↓reduceIte]

theorem contextChange_respond {α : Type} {call : Call α} {verdict : Verdict α}
    [Settles call Fault.status verdict] {output : α → Option Value}
    {event : Option (Place × ContextEvent)}
    (change : ∀ commit, verdict state = .ok commit →
      ContextChange state.objects.contextView commit.objects.contextView event) :
    ContextChange state.objects.contextView (state.respond call output).state.objects.contextView
      (if (state.respond call output).answer.isOk then event else none) := by
  cases outcome : verdict state with
  | ok commit =>
    have through : (state.respond call output).answer.isOk = true :=
      State.isOk_respond_iff.mpr ⟨commit, outcome⟩
    rw [if_pos through, State.respond_of_ok outcome]
    exact change commit outcome
  | error fault =>
    have failed : (state.respond call output).answer.isOk ≠ true := by
      rw [Ne, State.isOk_respond_iff]
      rintro ⟨commit, accepted⟩
      cases outcome.symm.trans accepted
    rw [if_neg failed, State.respond_of_error outcome]
    exact contextChange_of_same rfl

theorem contextChange_of_keeps {operation : Operation} (silent : operation.contextEvent = none)
    (hidden : operation.HiddenFrom Objects.contextView) :
    ContextChange state.objects.contextView (operation.perform state).state.objects.contextView
      (Moment.contextEvent ⟨state, operation⟩) := by
  have quiet : Moment.contextEvent ⟨state, operation⟩ = none := by
    simp only [Moment.contextEvent, silent, ite_self]
  rw [quiet]
  exact .still (operation.perform_keeps state _ hidden)

theorem initContext_happens (count : Int) (vector : Option (List (Option (List UInt8))))
    (given target : Option Slot) :
    ContextChange state.objects.contextView
      ((Operation.initContext count vector given target).perform state).state.objects.contextView
      (Moment.contextEvent ⟨state, .initContext count vector given target⟩) := by
  unfold Moment.contextEvent Moment.answer Moment.effect
  simp only [Operation.perform]
  split
  · apply contextChange_respond
    intro commit accepted
    cases target with
    | some slot => exact initContext_change accepted
    | none =>
      obtain ⟨_, _, here, _⟩ := Verdict.initContext_eq_ok.mp accepted
      cases here
  · exact contextChange_of_same rfl

theorem context_happens (slot : Option Slot) (request : ContextCall) :
    ContextChange state.objects.contextView
      ((Operation.context slot request).perform state).state.objects.contextView
      (Moment.contextEvent ⟨state, .context slot request⟩) := by
  have looks (silent : (Operation.context slot request).contextEvent = none)
      (same : (request.perform (pointerTo slot) state).state.objects = state.objects) :
      ContextChange state.objects.contextView
      ((Operation.context slot request).perform state).state.objects.contextView
        (Moment.contextEvent ⟨state, .context slot request⟩) := by
    have quiet : Moment.contextEvent ⟨state, .context slot request⟩ = none := by
      simp only [Moment.contextEvent, silent, ite_self]
    rw [quiet]
    exact contextChange_of_same same
  cases request with
  | isValid | instanceId => exact looks (by cases slot <;> rfl) rfl
  | domainId output =>
    exact looks (by cases slot <;> rfl) ((Verdict.contextDomain_looks _ output).objects_respond _ _)
  | unparsedCount output =>
    exact looks (by cases slot <;> rfl) ((Verdict.unparsedCount_looks _ output).objects_respond _ _)
  | unparsed index =>
    refine looks (by cases slot <;> rfl) ?_
    cases outcome : Verdict.unparsedArgument (pointerTo slot) index state with
    | error fault =>
      simp only [ContextCall.perform, State.perform_of_error outcome, State.objects_raise]
    | ok commit =>
      have same := (Verdict.unparsedArgument_looks (pointerTo slot) index).objects_eq outcome
      simp only [ContextCall.perform, State.perform_of_ok outcome, same]
  | shutdown =>
    refine contextChange_respond ?_
    intro commit accepted
    cases slot with
    | some slot => exact shutdownContext_change accepted
    | none =>
      obtain ⟨_, _, ⟨here, _⟩, _⟩ := Verdict.shutdownContext_eq_ok.mp accepted
      cases here
  | fini =>
    refine contextChange_respond ?_
    intro commit accepted
    cases slot with
    | some slot => exact finiContext_change accepted
    | none =>
      obtain ⟨_, _, ⟨here, _⟩, _⟩ := Verdict.finiContext_eq_ok.mp accepted
      cases here

/-- All that an operation can do to contexts. -/
theorem Moment.context_happens (moment : Moment) :
    ContextChange moment.state.objects.contextView moment.after.objects.contextView
      moment.contextEvent := by
  obtain ⟨state, operation⟩ := moment
  cases operation with
  | initContext count vector given target => exact initContext_happens count vector given target
  | context slot request => exact RosClient.context_happens slot request
  | options | clock | initTimer | timer =>
    exact contextChange_of_keeps rfl fun _ _ _ _ => rfl
  | errorIsSet | errorText | resetError | otherThread | setVariable | installLogger | refuse =>
    exact contextChange_of_keeps rfl trivial

/-- An operation goes through only as the next event in the life of its context. -/
theorem Moment.contextEvent_follows {moment : Moment} {place : Place} {event : ContextEvent}
    (happened : moment.contextEvent = some (place, event)) :
    event = (ContextEvent.behind (moment.state.objects.contexts place)).next := by
  obtain ⟨state, operation⟩ := moment
  unfold Moment.contextEvent Moment.answer Moment.effect at happened
  split at happened
  · next accepted =>
    cases operation with
    | initContext count vector given target =>
      cases target with
      | none => cases happened
      | some slot =>
        cases happened
        simp only [Operation.perform] at accepted
        split at accepted
        · obtain ⟨commit, outcome⟩ := State.isOk_respond_iff.mp accepted
          exact congrArg ContextEvent.next (initContext_behind outcome).symm
        · cases accepted
    | context target request =>
      cases target with
      | none => cases happened
      | some slot =>
        cases request with
        | shutdown =>
          cases happened
          obtain ⟨commit, outcome⟩ := State.isOk_respond_iff.mp accepted
          exact congrArg ContextEvent.next (shutdownContext_behind outcome).symm
        | fini =>
          cases happened
          obtain ⟨commit, outcome⟩ := State.isOk_respond_iff.mp accepted
          exact congrArg ContextEvent.next (finiContext_behind outcome).symm
        | isValid | instanceId | domainId | unparsedCount | unparsed => cases happened
    | errorIsSet | errorText | resetError | otherThread | setVariable | installLogger | options
    | clock | initTimer | timer | refuse => cases happened
  · cases happened

/-- An operation answers a status and leaves all objects as they are. -/
def State.Refuses (state : State) (operation : Operation) (status : Status) : Prop :=
  (operation.perform state).answer = .status status none ∧
    (operation.perform state).state.objects = state.objects

/-- Every initialisation is refused, and one with a proper vector and initialised options because it
is one too many. -/
structure State.RefusesInit (state : State) (slot : Slot) : Prop where
  failed : ∀ count vector given,
    let effect := (Operation.initContext count vector given (some slot)).perform state
    effect.answer.isOk = false ∧ effect.state.objects = state.objects
  proper : ∀ count vector given options, countFits count vector = true →
    Verdict.checkVector count vector = .ok () →
      state.objects.options (.caller given) = some options →
        state.Refuses (.initContext count vector (some given) (some slot)) .alreadyInit

/-- What becomes of the operations on a context with an event behind it: those that are not next in
its life are refused, and shutting it down and releasing it go through when they are next. -/
def State.Attempts (state : State) (slot : Slot) : ContextEvent → Prop
  | .release =>
    state.Refuses (.context (some slot) .shutdown) .invalidArgument ∧
      state.Refuses (.context (some slot) .fini) .invalidArgument
  | .init =>
    state.RefusesInit slot ∧ state.Refuses (.context (some slot) .fini) .invalidArgument ∧
      ((Operation.context (some slot) .shutdown).perform state).answer = .status .ok none
  | .shutdown =>
    state.RefusesInit slot ∧ state.Refuses (.context (some slot) .shutdown) .alreadyShutdown ∧
      ((Operation.context (some slot) .fini).perform state).answer = .status .ok none

theorem refuses_of_error {α : Type} {call : Call α} {verdict : Verdict α}
    [Settles call Fault.status verdict] {output : α → Option Value} {fault : Fault}
    (rejected : verdict state = .error fault) :
    (state.respond call output).answer = .status fault.status none ∧
      (state.respond call output).state.objects = state.objects := by
  rw [State.respond_of_error rejected]
  exact ⟨rfl, rfl⟩

variable {slot : Slot} {context : Context}

theorem refusesInit_of_some (present : state.objects.contexts (.caller slot) = some context) :
    state.RefusesInit slot where
  failed count vector given := by
    simp only [Operation.perform]
    split
    · have failed : (state.respondStatus (Call.initContext count vector (pointerTo given)
          (some (.caller slot)))).answer.isOk = false := by
        rw [← Bool.not_eq_true]
        intro answered
        obtain ⟨_, accepted⟩ := State.isOk_respond_iff.mp answered
        obtain ⟨_, _, here, _, _, _, absent, _⟩ := Verdict.initContext_eq_ok.mp accepted
        cases here
        cases present.symm.trans absent
      exact ⟨failed, State.objects_respond_of_not_isOk failed⟩
    · exact ⟨rfl, rfl⟩
  proper count vector given options fits counted found := by
    have rejected : Verdict.initContext count vector (some (.caller given)) (some (.caller slot))
        state = .error .contextInitialized := by
      have there := Verdict.findOptions_eq_ok.mpr ⟨rfl, found⟩
      simp only [Verdict.initContext, counted, Verdict.required, there, present, bind, Except.bind]
    unfold State.Refuses
    simp only [Operation.perform, fits, ↓reduceIte]
    exact refuses_of_error rejected

theorem refuses_of_none (absent : state.objects.contexts (.caller slot) = none) :
    state.Refuses (.context (some slot) .shutdown) .invalidArgument ∧
      state.Refuses (.context (some slot) .fini) .invalidArgument := by
  have found : Verdict.findContext (some (.caller slot)) state = .error .contextUninitialized := by
    simp only [Verdict.findContext, Verdict.required, absent, bind, Except.bind]
  constructor
  · have rejected : Verdict.shutdownContext (some (.caller slot)) state =
        .error .contextUninitialized := by
      simp only [Verdict.shutdownContext, found, bind, Except.bind]
    exact refuses_of_error rejected
  · have rejected : Verdict.finiContext (some (.caller slot)) state =
        .error .contextUninitialized := by
      simp only [Verdict.finiContext, found, bind, Except.bind]
    exact refuses_of_error rejected

theorem refuses_shutdown (present : state.objects.contexts (.caller slot) = some context)
    (invalid : context.instance? = none) :
    state.Refuses (.context (some slot) .shutdown) .alreadyShutdown := by
  have found := Verdict.findContext_eq_ok.mpr ⟨rfl, present⟩
  have rejected :
      Verdict.shutdownContext (some (.caller slot)) state = .error .contextShutDown := by
    simp only [Verdict.shutdownContext, found, bind, Except.bind, invalid]
  exact refuses_of_error rejected

theorem refuses_fini (present : state.objects.contexts (.caller slot) = some context)
    (valid : context.isValid = true) :
    state.Refuses (.context (some slot) .fini) .invalidArgument := by
  have found := Verdict.findContext_eq_ok.mpr ⟨rfl, present⟩
  have rejected : Verdict.finiContext (some (.caller slot)) state = .error .contextValid := by
    simp only [Verdict.finiContext, found, bind, Except.bind, valid, ↓reduceIte]
  exact refuses_of_error rejected

theorem accepts_shutdown (present : state.objects.contexts (.caller slot) = some context)
    (valid : context.isValid = true) :
    ((Operation.context (some slot) .shutdown).perform state).answer = .status .ok none := by
  obtain ⟨id, alive⟩ := Option.isSome_iff_exists.mp valid
  have accepted := Verdict.shutdownContext_eq_ok.mpr
    ⟨.caller slot, context, ⟨rfl, present⟩, id, alive, rfl⟩
  exact congrArg Effect.answer (State.respond_of_ok accepted)

theorem accepts_fini (present : state.objects.contexts (.caller slot) = some context)
    (invalid : context.isValid = false) :
    ((Operation.context (some slot) .fini).perform state).answer = .status .ok none := by
  have accepted := Verdict.finiContext_eq_ok.mpr
    ⟨.caller slot, context, ⟨rfl, present⟩, invalid, rfl⟩
  exact congrArg Effect.answer (State.respond_of_ok accepted)

theorem attempts_on_context (state : State) (slot : Slot) :
    state.Attempts slot (ContextEvent.behind (state.objects.contexts (.caller slot))) := by
  cases present : state.objects.contexts (.caller slot) with
  | none => exact refuses_of_none present
  | some context =>
    cases valid : context.isValid with
    | true =>
      simp only [ContextEvent.behind, valid, ↓reduceIte]
      exact ⟨refusesInit_of_some present, refuses_fini present valid,
        accepts_shutdown present valid⟩
    | false =>
      have shut : context.instance? = none := by
        simpa [Context.isValid] using valid
      simp only [ContextEvent.behind, valid, Bool.false_eq_true, ↓reduceIte]
      exact ⟨refusesInit_of_some present, refuses_shutdown present shut,
        accepts_fini present valid⟩

end

end RosClient
