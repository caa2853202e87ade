import RosClient.Proofs.Arguments.Render
import RosClient.Proofs.Context.Domain

namespace RosClient

/-- Whether a request for a domain leads to one: the one that is asked for, or else the one that
`ROS_DOMAIN_ID` says. -/
def DomainId.LeadsTo (environment : Environment) (requested : Option DomainId)
    (chosen : DomainId) : Prop :=
  (requested = some chosen ∧ chosen ≠ unset) ∨
    (requested.getD unset = unset ∧ FromRos environment (some chosen))

/-- How an initialisation ends that finds an empty handle, one that leads to no context yet, or one
that leads to a context: the first check that fails settles the error. -/
inductive InitVerdict (environment : Environment) (arguments : List String)
    (requested : Option DomainId) :
    Option (Option Context) → Except Error (DomainId × Arguments) → Prop where
  | tooMany {found : Option (Option Context)} (many : maxArgumentCount < arguments.length) :
      InitVerdict environment arguments requested found (.error (.invalidArgument
        (s!"too many arguments: {arguments.length} exceeds the native maximum of " ++
          "2147483647")))
  | nulByte {found : Option (Option Context)} (few : arguments.length ≤ maxArgumentCount)
      {index position : Nat} {argument : String}
      (here : arguments[index]? = some argument)
      (first : ∀ earlier < index, ∀ other, arguments[earlier]? = some other →
        Text.IsFreeOfNul other)
      (nul : (Text.Utf8.encode argument)[position]? = some 0)
      (leading : ∀ earlier < position, (Text.Utf8.encode argument)[earlier]? ≠ some 0) :
      InitVerdict environment arguments requested found (.error (.invalidArgument
        (s!"argument {index} contains a NUL byte: nul byte found in provided data at position: " ++
          toString position)))
  | emptyHandle (passable : ContextHandle.Passable arguments) :
      InitVerdict environment arguments requested none
        (.error (.invalidArgument "context handle is empty"))
  | initialisedBefore (passable : ContextHandle.Passable arguments) (context : Context) :
      InitVerdict environment arguments requested (some (some context))
        (.error (.failed .init .alreadyInit (failureMessage .initContext .contextInitialized)))
  | badArguments (passable : ContextHandle.Passable arguments) {cause : ArgumentError}
      (rejected : Arguments.parse arguments = .error cause) :
      InitVerdict environment arguments requested (some none)
        (.error (.failed .init .invalidRosArgs
          (failureMessage .initContext (.badArguments cause))))
  | badDomain (passable : ContextHandle.Passable arguments) {parsed : Arguments}
      (read : Arguments.parse arguments = .ok parsed)
      (unnamed : ∀ chosen, ¬ DomainId.LeadsTo environment requested chosen)
      {text : String} (present : environment.read .rosDomainId = some text) :
      InitVerdict environment arguments requested (some none)
        (.error (.failed .init .error (failureMessage .initContext (.badDomain text))))
  | initialised (passable : ContextHandle.Passable arguments) {parsed : Arguments}
      (read : Arguments.parse arguments = .ok parsed)
      {chosen : DomainId} (named : DomainId.LeadsTo environment requested chosen) :
      InitVerdict environment arguments requested (some none) (.ok (chosen, parsed))

namespace DomainId

variable {environment : Environment} {requested : Option DomainId}

theorem leadsTo_iff {chosen : DomainId} :
    LeadsTo environment requested chosen ↔
      resolve environment (requested.getD unset) = .ok chosen := by
  unfold LeadsTo
  rw [fromRos_iff]
  by_cases left : requested.getD unset = unset
  · rw [left, resolve_unset]
    constructor
    · rintro (⟨rfl, set⟩ | ⟨_, said⟩)
      · exact absurd left set
      · cases ros : fromEnvironment environment with
        | ok domain =>
          rw [ros] at said
          cases said
          rfl
        | error text =>
          rw [ros] at said
          cases said
    · intro said
      exact Or.inr ⟨rfl, by rw [said]; rfl⟩
  · rw [resolve_of_ne left]
    cases requested with
    | none => exact absurd rfl left
    | some domain =>
      simp only [Option.getD_some, Option.some.injEq, Except.ok.injEq]
      constructor
      · rintro (⟨same, _⟩ | ⟨unset, _⟩)
        · exact same
        · exact absurd unset left
      · rintro rfl
        exact Or.inl ⟨rfl, left⟩

theorem not_leadsTo_iff :
    (∀ chosen, ¬ LeadsTo environment requested chosen) ↔
      ∃ text, resolve environment (requested.getD unset) = .error text := by
  simp only [leadsTo_iff]
  cases resolve environment (requested.getD unset) with
  | ok chosen => simp
  | error text => simp

end DomainId

namespace ContextHandle

theorem nulPosition?_eq_some_iff {text : String} {position : Nat} :
    nulPosition? text = some position ↔
      (Text.Utf8.encode text)[position]? = some 0 ∧
        ∀ earlier < position, (Text.Utf8.encode text)[earlier]? ≠ some 0 := by
  rw [nulPosition?, List.findIdx?_eq_some_iff_getElem]
  constructor
  · rintro ⟨within, nul, leading⟩
    refine ⟨?_, fun earlier before same => ?_⟩
    · rw [List.getElem?_eq_getElem within, of_decide_eq_true nul]
    · obtain ⟨_, octet⟩ := List.getElem?_eq_some_iff.mp same
      exact leading earlier before (decide_eq_true octet)
  · rintro ⟨nul, leading⟩
    obtain ⟨within, octet⟩ := List.getElem?_eq_some_iff.mp nul
    refine ⟨within, decide_eq_true octet, fun earlier before found => ?_⟩
    apply leading earlier before
    rw [List.getElem?_eq_getElem (by omega), of_decide_eq_true found]

theorem nulByte?_eq_some_iff {start index position : Nat} {arguments : List String} :
    nulByte? start arguments = some (index, position) ↔
      ∃ offset argument, index = start + offset ∧ arguments[offset]? = some argument ∧
        (∀ earlier < offset, ∀ other, arguments[earlier]? = some other →
          nulPosition? other = none) ∧
        nulPosition? argument = some position := by
  induction arguments generalizing start with
  | nil => simp [nulByte?]
  | cons argument rest ih =>
    rw [nulByte?]
    cases nul : nulPosition? argument with
    | some found =>
      simp only [Option.some.injEq, Prod.mk.injEq]
      constructor
      · rintro ⟨rfl, rfl⟩
        exact ⟨0, argument, rfl, rfl, fun _ before => absurd before (Nat.not_lt_zero _), nul⟩
      · rintro ⟨offset, other, rfl, here, clean, there⟩
        cases offset with
        | zero =>
          cases here
          exact ⟨rfl, Option.some.inj (nul.symm.trans there)⟩
        | succ offset => cases nul.symm.trans (clean 0 (Nat.succ_pos offset) argument rfl)
    | none =>
      simp only [ih]
      constructor
      · rintro ⟨offset, other, rfl, here, clean, there⟩
        refine ⟨offset + 1, other, by omega, here, ?_, there⟩
        intro earlier before text found
        cases earlier with
        | zero =>
          cases found
          exact nul
        | succ earlier => exact clean earlier (by omega) text found
      · rintro ⟨offset, other, rfl, here, clean, there⟩
        cases offset with
        | zero =>
          cases here
          cases nul.symm.trans there
        | succ offset =>
          exact ⟨offset, other, by omega, here,
            fun earlier before text found => clean (earlier + 1) (by omega) text found, there⟩

/-- The verdict on an initialisation, found check by check. -/
def verdict (environment : Environment) (arguments : List String) (requested : Option DomainId)
    (found : Option (Option Context)) : Except Error (DomainId × Arguments) :=
  match rejection? arguments, found with
  | some rejection, _ => .error (.ofRejection rejection)
  | none, none => .error (.ofRejection .emptyContext)
  | none, some (some _) =>
    .error (.failed .init .alreadyInit (failureMessage .initContext .contextInitialized))
  | none, some none =>
    (Verdict.readContext environment (requested.getD .unset) arguments).mapError fun fault =>
      .failed .init fault.status (failureMessage .initContext fault)

variable {environment : Environment} {arguments : List String} {requested : Option DomainId}
  {found : Option (Option Context)} {ended : Except Error (DomainId × Arguments)}

theorem readContext_of_parse_error {cause : ArgumentError} {domain : DomainId}
    (rejected : Arguments.parse arguments = .error cause) :
    Verdict.readContext environment domain arguments = .error (.badArguments cause) := by
  simp only [Verdict.readContext, rejected, Except.mapError, bind, Except.bind]

theorem verdict_of_initVerdict (settled : InitVerdict environment arguments requested found ended) :
    verdict environment arguments requested found = ended := by
  cases settled with
  | tooMany many =>
    simp only [verdict, rejection?_of_many many]
    rfl
  | nulByte few here first nul leading =>
    have rejected : nulByte? 0 arguments = some (_, _) :=
      nulByte?_eq_some_iff.mpr ⟨_, _, (Nat.zero_add _).symm, here,
        fun earlier before other there =>
          nulPosition?_eq_none_iff.mpr (first earlier before other there),
        nulPosition?_eq_some_iff.mpr ⟨nul, leading⟩⟩
    simp only [verdict, rejection?_of_few few, rejected]
    rfl
  | emptyHandle passable =>
    simp only [verdict, rejection?_eq_none_iff.mpr passable]
    rfl
  | initialisedBefore passable context =>
    simp only [verdict, rejection?_eq_none_iff.mpr passable]
  | badArguments passable rejected =>
    simp only [verdict, rejection?_eq_none_iff.mpr passable, readContext_of_parse_error rejected]
    rfl
  | badDomain passable read unnamed present =>
    obtain ⟨complaint, failed⟩ := DomainId.not_leadsTo_iff.mp unnamed
    cases present.symm.trans (DomainId.read_of_resolve_error failed)
    simp only [verdict, rejection?_eq_none_iff.mpr passable, readContext_of_parse read, failed]
    rfl
  | initialised passable read named =>
    simp only [verdict, rejection?_eq_none_iff.mpr passable, readContext_of_parse read,
      DomainId.leadsTo_iff.mp named]
    rfl

theorem initVerdict_of_rejection {rejection : Rejection}
    (rejected : rejection? arguments = some rejection) :
    InitVerdict environment arguments requested found (.error (.ofRejection rejection)) := by
  rcases Nat.lt_or_ge maxArgumentCount arguments.length with many | few
  · cases (rejection?_of_many many).symm.trans rejected
    exact .tooMany many
  · rw [rejection?_of_few few, Option.map_eq_some_iff] at rejected
    obtain ⟨⟨index, position⟩, located, rfl⟩ := rejected
    obtain ⟨_, argument, same, here, first, nul⟩ := nulByte?_eq_some_iff.mp located
    rw [Nat.zero_add] at same
    subst same
    obtain ⟨octet, leading⟩ := nulPosition?_eq_some_iff.mp nul
    exact .nulByte few here (fun earlier before other there =>
      nulPosition?_eq_none_iff.mp (first earlier before other there)) octet leading

theorem initVerdict_verdict :
    InitVerdict environment arguments requested found
      (verdict environment arguments requested found) := by
  unfold verdict
  split
  · next rejected => exact initVerdict_of_rejection rejected
  · next clean => exact .emptyHandle (rejection?_eq_none_iff.mp clean)
  · next context clean => exact .initialisedBefore (rejection?_eq_none_iff.mp clean) context
  · next clean =>
    have passable := rejection?_eq_none_iff.mp clean
    cases read : Arguments.parse arguments with
    | error cause =>
      rw [readContext_of_parse_error read]
      exact .badArguments passable read
    | ok parsed =>
      rw [readContext_of_parse read]
      cases resolved : DomainId.resolve environment (requested.getD .unset) with
      | error text =>
        exact .badDomain passable read (DomainId.not_leadsTo_iff.mpr ⟨text, resolved⟩)
          (DomainId.read_of_resolve_error resolved)
      | ok chosen => exact .initialised passable read (DomainId.leadsTo_iff.mpr resolved)

theorem initVerdict_iff :
    InitVerdict environment arguments requested found ended ↔
      ended = verdict environment arguments requested found :=
  ⟨fun settled => (verdict_of_initVerdict settled).symm, fun same => same ▸ initVerdict_verdict⟩

theorem initVerdict_of_present {state : State} {place : Place} {context : Context}
    (present : state.objects.contexts place = some context) :
    initVerdict (some place) arguments (withOptions requested state) =
      .error .contextInitialized := by
  have options := Verdict.findOptions_eq_ok.mpr ⟨rfl, options_withOptions requested state⟩
  have there : (withOptions requested state).objects.contexts place = some context := present
  unfold initVerdict Verdict.initContext
  simp only [Verdict.checkVector_items, transientOptions, Verdict.required, options, there, bind,
    Except.bind]

/-- An initialisation ends as its verdict says. If that is an error, all objects and the environment
are as they were. -/
theorem init_ends {state : State} (vacant : state.IsVacant) (handle : Handle)
    (arguments : List String) (requested : Option DomainId) :
    match verdict state.environment arguments requested
      (handle.map state.objects.contexts) with
    | .ok (chosen, parsed) =>
      ∃ place after, handle = some place ∧
        init handle arguments requested state = .ok () after ∧
        after.objects = state.objects.initialised place chosen parsed
    | .error e =>
      ∃ after, init handle arguments requested state = .error e after ∧
        after.objects = state.objects ∧ after.environment = state.environment := by
  cases clean : rejection? arguments with
  | some found =>
    simp only [verdict, clean]
    exact ⟨state, by rw [init, clean]; rfl, rfl, rfl⟩
  | none =>
    cases handle with
    | none =>
      simp only [verdict, clean, Option.map_none]
      exact ⟨state, by rw [init, clean]; rfl, rfl, rfl⟩
    | some place =>
      simp only [Option.map_some]
      cases present : state.objects.contexts place with
      | some context =>
        simp only [verdict, clean]
        exact ⟨_, init_of_refused vacant clean (initVerdict_of_present present), rfl, rfl⟩
      | none =>
        simp only [verdict, clean]
        cases read : Verdict.readContext state.environment (requested.getD .unset) arguments with
        | error fault =>
          exact ⟨_, init_of_refused vacant clean (initVerdict_of_unread present read), rfl, rfl⟩
        | ok both =>
          obtain ⟨chosen, parsed⟩ := both
          obtain ⟨after, ended, made⟩ := init_of_read vacant clean present read
          exact ⟨place, after, rfl, ended, made⟩

end ContextHandle

open Session

namespace Session

/-- What an initialisation finds in a slot: an empty handle, a handle to no context yet, or one to a
context. -/
def foundContext (session : Session) (slot : Slot) : Option (Option Context) :=
  (session.heldContext slot).handle.map session.state.objects.contexts

/-- What comes of a step that initialises the context of a slot. With a domain and arguments there
is a valid context under the next instance id. With an error all contexts are what they were, and
no instance id is taken. -/
def EndsInit (session : Session) (slot : Slot) (outcome : StepAnswer × Session) :
    Except Error (DomainId × Arguments) → Prop
  | .ok (chosen, parsed) =>
    outcome.1 = .outcome (.value .nothing) ∧
      outcome.2.contextIn (.handle slot) =
        some ⟨some session.state.objects.nextId, chosen, parsed⟩ ∧
      outcome.2.state.objects.nextId = session.state.objects.nextId + 1 ∧
      ((ContextStep.use .isValid).perform slot outcome.2).1 = .outcome (.value (.flag true))
  | .error e =>
    outcome.1 = .outcome (.error e) ∧ outcome.2.contextView = session.contextView ∧
      outcome.2.heldContext = session.heldContext

variable {session : Session} {slot : Slot}

theorem isValid_answers {context : Context} {id : Nat}
    (present : session.contextIn (.handle slot) = some context)
    (alive : context.instance? = some id) :
    ((ContextStep.use .isValid).perform slot session).1 = .outcome (.value (.flag true)) := by
  have valid : context.isValid = true := by rw [Context.isValid, alive]; rfl
  change StepAnswer.outcome (.value (.flag
    (ContextHandle.isValid (session.context slot).1.handle (session.context slot).2.state))) = _
  rw [context_fst, state_context, ContextHandle.isValid, Objects.isContextValid]
  rw [contextIn] at present
  rw [present, Option.any_some, valid]

theorem foundContext_of_same {other : Session} (held : other.heldContext = session.heldContext)
    (same : other.state.objects = session.state.objects) (slot : Slot) :
    other.foundContext slot = session.foundContext slot := by
  rw [foundContext, held, same]
  rfl

/-- An initialisation through the handle in a slot ends as its verdict says, and after an error all
objects and the environment are as they were. -/
theorem use_endsInit (vacant : session.state.IsVacant) (own : session.HasOwnContexts)
    (slot : Slot) (arguments : List String) (requested : Option DomainId) :
    let outcome := (ContextStep.use (.init arguments requested)).perform slot session
    let verdict := ContextHandle.verdict session.state.environment arguments requested
      (session.foundContext slot)
    session.EndsInit slot outcome verdict ∧
      ∀ e, verdict = .error e → outcome.2.state.objects = session.state.objects ∧
        outcome.2.state.environment = session.state.environment := by
  intro outcome verdict
  have ends := ContextHandle.init_ends vacant (session.heldContext slot).handle arguments requested
  have performed : outcome = (session.context slot).2.respondUnit
      (ContextHandle.init (session.heldContext slot).handle arguments requested) := by
    rw [← context_fst]
    rfl
  have looked := state_context session slot
  have held (after : State) : { (session.context slot).2 with state := after }.heldContext =
      session.heldContext :=
    heldContext_context session slot
  rw [performed]
  change match verdict with
    | .ok (chosen, parsed) => _
    | .error e => _ at ends
  cases settled : verdict with
  | ok both =>
    obtain ⟨chosen, parsed⟩ := both
    rw [settled] at ends
    obtain ⟨place, after, here, ended, made⟩ := ends
    obtain rfl := own slot place here
    rw [← looked] at ended
    rw [respondUnit, respond_of_ok ended]
    have there : contextIn { (session.context slot).2 with state := after } (.handle slot) =
        some ⟨some session.state.objects.nextId, chosen, parsed⟩ := by
      rw [contextIn_handle (by rw [held, here]), made]
      exact replace_self _ _ _
    exact ⟨⟨rfl, there, congrArg Objects.nextId made, isValid_answers there rfl⟩, nofun⟩
  | error e =>
    rw [settled] at ends
    obtain ⟨after, ended, same, unchanged⟩ := ends
    rw [← looked] at ended
    rw [respondUnit, respond_of_error ended]
    have view := contextView_of_same (held after) (congrArg Objects.contextView same)
    exact ⟨⟨rfl, view, held after⟩, fun _ _ => ⟨same, unchanged⟩⟩

theorem use_of_many (vacant : session.state.IsVacant) (own : session.HasOwnContexts)
    (slot : Slot) {arguments : List String} (many : maxArgumentCount < arguments.length)
    (requested : Option DomainId) :
    ((ContextStep.use (.init arguments requested)).perform slot session).1 =
      .outcome (.error (.ofRejection (.tooManyArguments arguments.length))) := by
  obtain ⟨ends, _⟩ := use_endsInit vacant own slot arguments requested
  rw [ContextHandle.verdict_of_initVerdict (.tooMany many)] at ends
  exact ends.1

/-- After an initialisation that has failed on a handle to no context, one with nothing to complain
about succeeds. -/
theorem endsInit_again (vacant : session.state.IsVacant) (own : session.HasOwnContexts)
    (found : session.foundContext slot = some none) {arguments again : List String}
    {requested wanted : Option DomainId} {e : Error} {chosen : DomainId} {parsed : Arguments}
    (failed : ContextHandle.verdict session.state.environment arguments requested
      (session.foundContext slot) = .error e)
    (good : InitVerdict session.state.environment again wanted (some none)
      (.ok (chosen, parsed))) :
    session.EndsInit slot
      ((ContextStep.use (.init again wanted)).perform slot
        ((ContextStep.use (.init arguments requested)).perform slot session).2)
      (.ok (chosen, parsed)) := by
  obtain ⟨ends, kept⟩ := use_endsInit vacant own slot arguments requested
  obtain ⟨objects, environment⟩ := kept e failed
  rw [failed] at ends
  obtain ⟨_, _, held⟩ := ends
  have foundAgain := (foundContext_of_same held objects slot).trans found
  have vacantAgain := (ContextStep.use (.init arguments requested)).perform_isVacant vacant slot
  have ownAgain := (ContextStep.use (.init arguments requested)).perform_ownContexts own slot
  obtain ⟨endsAgain, _⟩ := use_endsInit vacantAgain ownAgain slot again wanted
  rw [environment, foundAgain, ContextHandle.verdict_of_initVerdict good] at endsAgain
  obtain ⟨answered, there, counted, valid⟩ := endsAgain
  rw [objects] at there counted
  exact ⟨answered, there, counted, valid⟩

theorem new_endsInit (vacant : session.state.IsVacant) (own : session.HasOwnContexts)
    (free : session.contexts.get? slot = none) {arguments : List String}
    {requested : Option DomainId} {step : ContextStep}
    (makes : step.perform slot session =
      session.makeContext slot true (ContextHandle.new slot arguments requested)) :
    let verdict := ContextHandle.verdict session.state.environment arguments requested (some none)
    session.EndsInit slot (step.perform slot session) verdict ∧
      ∀ e, verdict = .error e → (step.perform slot session).2.contexts.get? slot = none := by
  intro verdict
  have vacantToo : (ContextHandle.cleared slot session.state).IsVacant := vacant
  have ends := ContextHandle.init_ends vacantToo (some (.handle slot)) arguments requested
  rw [Option.map_some, ContextHandle.contexts_cleared] at ends
  change match verdict with
    | .ok (chosen, parsed) => _
    | .error e => _ at ends
  rw [makes]
  cases settled : verdict with
  | ok both =>
    obtain ⟨chosen, parsed⟩ := both
    rw [settled] at ends
    obtain ⟨_, after, here, ended, made⟩ := ends
    cases here
    obtain ⟨outcome, answered, _, there, counted⟩ := makeContext_new_of_ok free ended made
    rw [answered]
    exact ⟨⟨rfl, there, counted, isValid_answers there rfl⟩, nofun⟩
  | error e =>
    rw [settled] at ends
    obtain ⟨after, ended, same, _⟩ := ends
    obtain ⟨answered, kept⟩ := makeContext_new_of_error own free ended same
    rw [answered]
    exact ⟨⟨rfl, kept, rfl⟩, fun _ _ => free⟩

end Session

/-- An initialisation ends as its first defect settles, whatever the handle leads to; there is
exactly one verdict on it. An error leaves all objects as they were, so that another initialisation
with nothing to complain about succeeds on a handle that has led to no context, under the very next
instance id. A new context in a free slot has the verdict that a handle to no context would have,
and after an error the slot is still free. -/
theorem init_settled_by_first_defect (depth : Nat) (initial : Environment)
    (readings : Nat → RealTime) (history : List Step) (slot : Slot) (arguments : List String) :
    let session := (Session.start depth initial readings).after history
    let environment := session.state.environment
    (∀ requested, ∃ verdict,
      (∀ other, InitVerdict environment arguments requested (session.foundContext slot) other ↔
        other = verdict) ∧
      let outcome := (Step.context slot (.use (.init arguments requested))).perform session
      session.EndsInit slot outcome verdict ∧
      ∀ e, verdict = .error e →
        outcome.2.state.objects = session.state.objects ∧
        (session.foundContext slot = some none → ∀ again wanted chosen parsed,
          InitVerdict environment again wanted (some none) (.ok (chosen, parsed)) →
            session.EndsInit slot
              ((Step.context slot (.use (.init again wanted))).perform outcome.2)
              (.ok (chosen, parsed)))) ∧
    (session.contexts.get? slot = none → ∀ step requested,
      step = .new arguments requested ∨
        (step = .newFromEnvironment arguments ∧
          requested = Configuration.domainFrom environment) →
      ∃ verdict,
        (∀ other, InitVerdict environment arguments requested (some none) other ↔
          other = verdict) ∧
        let outcome := (Step.context slot step).perform session
        session.EndsInit slot outcome verdict ∧
        ∀ e, verdict = .error e → outcome.2.contexts.get? slot = none) := by
  intro session environment
  have vacant : session.state.IsVacant := after_start_isVacant depth initial readings history
  have own : session.HasOwnContexts := after_start_hasOwnContexts depth initial readings history
  constructor
  · intro requested
    refine ⟨ContextHandle.verdict environment arguments requested (session.foundContext slot),
      fun other => ContextHandle.initVerdict_iff, ?_⟩
    obtain ⟨ends, kept⟩ := Session.use_endsInit vacant own slot arguments requested
    refine ⟨ends, fun e failed => ⟨(kept e failed).1, ?_⟩⟩
    intro found again wanted chosen parsed good
    exact Session.endsInit_again vacant own found failed good
  · intro free step requested made
    refine ⟨ContextHandle.verdict environment arguments requested (some none),
      fun other => ContextHandle.initVerdict_iff, ?_⟩
    apply Session.new_endsInit vacant own free
    rcases made with rfl | ⟨rfl, rfl⟩
    · rfl
    · rfl

/-- A handle to no context and one plain argument more than a call can be given: none has a NUL, all
of them can be read, and domain 7 is there to be had, but the initialisation is rejected. -/
theorem init_rejects_too_many :
    let session :=
      (Session.start 3 .empty fun _ => ⟨.ok .zero, .ok .zero⟩).after [.context 1 .create]
    let arguments := List.replicate 2147483648 "talker"
    (∀ argument ∈ arguments, Text.IsFreeOfNul argument) ∧
      session.foundContext 1 = some none ∧
      Arguments.parse arguments = .ok { unparsed := arguments } ∧
      DomainId.LeadsTo session.state.environment (some 7) 7 ∧
      ((Step.context 1 (.use (.init arguments (some 7)))).perform session).1 =
        .outcome (.error (.invalidArgument
          "too many arguments: 2147483648 exceeds the native maximum of 2147483647")) := by
  intro session arguments
  have counted : arguments.length = 2147483648 := List.length_replicate
  have plain : ∀ argument ∈ arguments, argument = "talker" :=
    fun argument member => List.eq_of_mem_replicate member
  refine ⟨?_, rfl, ?_, Or.inl ⟨rfl, by decide⟩, ?_⟩
  · intro argument member
    rw [plain argument member]
    simp [Text.IsFreeOfNul]
  · refine Arguments.parse_of_notMem fun member => ?_
    exact absurd (plain _ member) (by decide)
  · have many : maxArgumentCount < arguments.length := by
      rw [counted]
      decide
    have rejected := Session.use_of_many
      (after_start_isVacant 3 .empty (fun _ => ⟨.ok .zero, .ok .zero⟩) [.context 1 .create])
      (after_start_hasOwnContexts 3 .empty (fun _ => ⟨.ok .zero, .ok .zero⟩) [.context 1 .create])
      1 many (some 7)
    rw [counted] at rejected
    exact rejected

/-- A flag without its value fails the initialisation of a new handle, and then a plain argument in
domain 7 is initialised. -/
theorem init_settled_by_first_defect_retried :
    let session :=
      (Session.start 3 .empty fun _ => ⟨.ok .zero, .ok .zero⟩).after [.context 1 .create]
    let failed := (Step.context 1 (.use (.init ["--ros-args", "-r"] none))).perform session
    failed.1 = .outcome (.error (.failed .init .invalidRosArgs
        (failureMessage .initContext (.badArguments (.missingValue "-r"))))) ∧
      session.EndsInit 1 ((Step.context 1 (.use (.init ["talker"] (some 7)))).perform failed.2)
        (.ok (7, { unparsed := ["talker"] })) := by
  intro session failed
  have flags : ContextHandle.Passable ["--ros-args", "-r"] :=
    ⟨by decide, by simp [Text.IsFreeOfNul]⟩
  have plain : ContextHandle.Passable ["talker"] := ⟨by decide, by simp [Text.IsFreeOfNul]⟩
  obtain ⟨initialises, _⟩ := init_settled_by_first_defect 3 .empty
    (fun _ => ⟨.ok .zero, .ok .zero⟩) [.context 1 .create] 1 ["--ros-args", "-r"]
  obtain ⟨verdict, settled, ends, again⟩ := initialises none
  obtain rfl := (settled _).mp (.badArguments flags rfl)
  obtain ⟨answered, _⟩ := ends
  exact ⟨answered, (again _ rfl).2 rfl ["talker"] (some 7) 7 _
    (.initialised plain rfl (Or.inl ⟨rfl, by decide⟩))⟩

end RosClient
