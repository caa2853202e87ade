import RosClient.Proofs.Arguments.Render
import RosClient.Proofs.Context.Lifecycle
import RosClient.Proofs.Context.Outcome
import RosClient.Proofs.Context.Refinement

namespace RosClient

/-- The deeds that are to initialise the context at a place from some texts, in a domain that is
asked for: a step on the slot of a handle, or the call with a vector of C strings, as many as it can
be given, whose octets are read leniently. -/
inductive Step.Initialises (session : Session) : Place → List String → DomainId → Step → Prop where
  | init (slot : Slot) (arguments : List String) (domain : Option DomainId) :
      Initialises session (.handle slot) arguments (domain.getD .unset)
        (.context slot (.use (.init arguments domain)))
  | new (slot : Slot) (arguments : List String) (domain : Option DomainId) :
      Initialises session (.handle slot) arguments (domain.getD .unset)
        (.context slot (.new arguments domain))
  | newFromEnvironment (slot : Slot) (arguments : List String) :
      Initialises session (.handle slot) arguments
        ((Configuration.domainFrom session.state.environment).getD .unset)
        (.context slot (.newFromEnvironment arguments))
  | call (slot given : Slot) {options : InitOptions}
      (present : session.state.objects.options (.caller given) = some options)
      {items : List (List UInt8)} (few : items.length ≤ maxArgumentCount)
      (strings : ∀ octets ∈ items, 0 ∉ octets)
      {vector : Option (List (Option (List UInt8)))} (front : items.map some <+: vector.getD []) :
      Initialises session (.caller slot) (items.map Text.Utf8.decodeLossy) options.domain
        (.operation (.initContext items.length vector (some given) (some slot)))

/-- Whether there is room for the context that a deed initialises: the handle in its slot leads to
none yet, or the slot or the place is free. -/
def Session.HasRoomFor (session : Session) : Step → Prop
  | .context slot (.use _) => session.foundContext slot = some none
  | .context slot _ => session.contexts.get? slot = none
  | .operation (.initContext _ _ _ (some slot)) =>
    session.state.objects.contexts (.caller slot) = none
  | _ => False

/-- Texts that can be initialised from: a call can be given them, they can be read, and the domain
that is asked for leads to one. -/
structure Environment.Reads (environment : Environment) (texts : List String)
    (requested : DomainId) (parsed : Arguments) (chosen : DomainId) : Prop where
  passable : ContextHandle.Passable texts
  read : Arguments.parse texts = .ok parsed
  resolved : DomainId.resolve environment requested = .ok chosen

/-- What the calls on a context in a slot of the caller tell of its unparsed arguments: their count,
each of them under its index, and under any greater index nothing but a diagnostic. -/
structure State.TellsEach (state : State) (slot : Slot) (texts : List String) : Prop where
  count : ((Operation.context (some slot) (.unparsedCount true)).perform state).answer =
    .status .ok (some (.count texts.length))
  within : ∀ index (bound : index < texts.length),
    ((Operation.context (some slot) (.unparsed index)).perform state).answer =
      .value (.text texts[index])
  beyond : ∀ index, texts.length ≤ index →
    let effect := (Operation.context (some slot) (.unparsed index)).perform state
    effect.answer = .value .nothing ∧
      effect.state.pending =
        some s!"argument index {index} out of range ({texts.length} unparsed arguments)"

namespace Session

/-- A deed initialises the context at a place: it is there then, in a domain and with arguments,
under the next instance id. -/
structure Starts (session : Session) (deed : Step) (place : Place) (chosen : DomainId)
    (parsed : Arguments) : Prop where
  event : Instant.eventAt place ⟨session, deed⟩ = some .init
  made : (deed.performAlone session).contextIn place =
    some ⟨some session.state.objects.nextId, chosen, parsed⟩

/-- What is told of the unparsed arguments of a context. -/
def TellsUnparsed (session : Session) (texts : List String) : Place → Prop
  | .handle slot =>
    ((ContextStep.use .unparsed).perform slot session).1 = .outcome (.value (.texts texts))
  | .caller slot => session.state.TellsEach slot texts
  | .transient => True

/-- The same is told of the unparsed arguments of a context at every instant until it is released.
-/
def KeepsUnparsed (session : Session) (texts : List String) (place : Place) : Prop :=
  ∀ later : List Step,
    (∀ instant ∈ session.instants later, instant.eventAt place ≠ some .release) →
      (session.afterDeeds later).TellsUnparsed texts place

end Session

open Session

namespace Verdict

theorem readContext_eq_ok {environment : Environment} {requested chosen : DomainId}
    {texts : List String} {parsed : Arguments} :
    readContext environment requested texts = .ok (chosen, parsed) ↔
      Arguments.parse texts = .ok parsed ∧
        DomainId.resolve environment requested = .ok chosen := by
  cases read : Arguments.parse texts with
  | error cause =>
    simp only [ContextHandle.readContext_of_parse_error read, reduceCtorEq, false_and]
  | ok found =>
    rw [readContext_of_parse read]
    cases DomainId.resolve environment requested <;>
      simp [Except.map, Except.mapError, and_comm]

variable {state : State} {items : List (List UInt8)}
  {vector : Option (List (Option (List UInt8)))} {given place : Place} {options : InitOptions}
  {commit : Commit Unit}

theorem checkVector_of_front (front : items.map some <+: vector.getD []) :
    checkVector items.length vector = .ok () := by
  have counted : ¬ (items.length : Int) < 0 := by omega
  cases vector with
  | some whole => simp [checkVector, counted]
  | none =>
    have empty := List.map_eq_nil_iff.mp (List.prefix_nil.mp front)
    simp [checkVector, empty]

theorem countFits_of_front (front : items.map some <+: vector.getD []) :
    countFits items.length vector = true := by
  cases vector with
  | none => rfl
  | some whole =>
    have shorter := front.length_le
    rw [List.length_map, Option.getD_some] at shorter
    simpa [countFits] using shorter

theorem initContext_strings (front : items.map some <+: vector.getD [])
    (present : state.objects.options given = some options) :
    initContext items.length vector (some given) (some place) state = .ok commit ↔
      state.objects.contexts place = none ∧ ∃ chosen parsed,
        readContext state.environment options.domain (items.map Text.Utf8.decodeLossy) =
          .ok (chosen, parsed) ∧
        state.commit (state.objects.initialised place chosen parsed)
          (ContextHandle.initRecords state.objects.nextId chosen parsed items.length) = commit := by
  have taken : (vector.getD []).take (items.length : Int).toNat = items.map some := by
    rw [Int.toNat_natCast, ← List.length_map some]
    exact (List.prefix_iff_eq_take.mp front).symm
  rw [initContext_eq_ok, taken]
  constructor
  · rintro ⟨_, _, here, _, _, ⟨there, found⟩, absent, _, read, chosen, parsed, settled, done⟩
    cases here
    cases there
    cases found.symm.trans present
    rw [decodeItems_map_some] at read
    cases read
    exact ⟨absent, chosen, parsed, settled, done⟩
  · rintro ⟨absent, chosen, parsed, settled, done⟩
    exact ⟨checkVector_of_front front, place, rfl, given, options, ⟨rfl, present⟩, absent, _,
      decodeItems_map_some 0 items, chosen, parsed, settled, done⟩

end Verdict

section

variable {session : Session} {place : Place} {slot : Slot} {deed : Step} {step : ContextStep}
  {texts : List String} {requested chosen : DomainId} {parsed : Arguments}

theorem ContextHandle.verdict_eq_ok {environment : Environment} {domain : Option DomainId}
    {found : Option (Option Context)} :
    verdict environment texts domain found = .ok (chosen, parsed) ↔
      found = some none ∧ environment.Reads texts (domain.getD .unset) parsed chosen := by
  constructor
  · intro settled
    have judged : InitVerdict environment texts domain found (.ok (chosen, parsed)) :=
      initVerdict_iff.mpr settled.symm
    cases judged with
    | initialised passable read named =>
      exact ⟨rfl, passable, read, DomainId.leadsTo_iff.mp named⟩
  · rintro ⟨rfl, passable, read, resolved⟩
    exact verdict_of_initVerdict (.initialised passable read (DomainId.leadsTo_iff.mpr resolved))

theorem eventAt_handle_iff
    (event : ∀ answer, step.event answer = if answer.isOk then some .init else none) :
    Instant.eventAt (.handle slot) ⟨session, .context slot step⟩ = some .init ↔
      (step.perform slot session).1.isOk = true := by
  rw [Instant.eventAt_eq_some]
  simp [Instant.contextEvent, event]

/-- A step that ends as its verdict says, where there is room, initialises a context exactly if
there is room and its texts can be initialised from. -/
theorem starts_iff_of_endsInit {domain : Option DomainId}
    (event : ∀ answer, step.event answer = if answer.isOk then some .init else none)
    (room : (step.perform slot session).1.isOk = true → session.HasRoomFor (.context slot step))
    (ends : session.HasRoomFor (.context slot step) →
      session.EndsInit slot (step.perform slot session)
        (ContextHandle.verdict session.state.environment texts domain (some none))) :
    session.Starts (.context slot step) (.handle slot) chosen parsed ↔
      session.HasRoomFor (.context slot step) ∧
        session.state.environment.Reads texts (domain.getD .unset) parsed chosen := by
  constructor
  · rintro ⟨happened, there⟩
    have answered := (eventAt_handle_iff event).mp happened
    have ended := ends (room answered)
    cases settled : ContextHandle.verdict session.state.environment texts domain (some none) with
    | error e =>
      rw [settled] at ended
      rw [ended.1] at answered
      cases answered
    | ok both =>
      rw [settled] at ended
      cases ended.2.1.symm.trans there
      exact ⟨room answered, (ContextHandle.verdict_eq_ok.mp settled).2⟩
  · rintro ⟨free, reads⟩
    have ended := ends free
    rw [ContextHandle.verdict_eq_ok.mpr ⟨rfl, reads⟩] at ended
    refine ⟨(eventAt_handle_iff event).mpr ?_, ended.2.1⟩
    rw [ended.1]
    rfl

theorem isOk_makeContext {owned : Bool} {action : Action Handle}
    (answered : (session.makeContext slot owned action).1.isOk = true) :
    session.contexts.get? slot = none := by
  unfold makeContext at answered
  split at answered
  · cases answered
  · next free => exact Option.not_isSome_iff_eq_none.mp free

theorem starts_iff_init (vacant : session.state.IsVacant) (own : session.HasOwnContexts)
    (domain : Option DomainId) :
    session.Starts (.context slot (.use (.init texts domain))) (.handle slot) chosen parsed ↔
      session.HasRoomFor (.context slot (.use (.init texts domain))) ∧
        session.state.environment.Reads texts (domain.getD .unset) parsed chosen := by
  obtain ⟨ends, _⟩ := use_endsInit vacant own slot texts domain
  refine starts_iff_of_endsInit (fun _ => rfl) ?_ ?_
  · intro answered
    cases settled : ContextHandle.verdict session.state.environment texts domain
      (session.foundContext slot) with
    | error e =>
      rw [settled] at ends
      rw [ends.1] at answered
      cases answered
    | ok both => exact (ContextHandle.verdict_eq_ok.mp settled).1
  · intro found
    rwa [show session.foundContext slot = some none from found] at ends

theorem starts_iff_new (vacant : session.state.IsVacant) (own : session.HasOwnContexts)
    {domain : Option DomainId}
    (event : ∀ answer, step.event answer = if answer.isOk then some .init else none)
    (makes : step.perform slot session =
      session.makeContext slot true (ContextHandle.new slot texts domain))
    (room : session.HasRoomFor (.context slot step) ↔ session.contexts.get? slot = none) :
    session.Starts (.context slot step) (.handle slot) chosen parsed ↔
      session.HasRoomFor (.context slot step) ∧
        session.state.environment.Reads texts (domain.getD .unset) parsed chosen := by
  refine starts_iff_of_endsInit event ?_ fun free =>
    (new_endsInit vacant own (room.mp free) makes).1
  intro answered
  rw [makes] at answered
  exact room.mpr (isOk_makeContext answered)

section

variable {count : Int} {vector : Option (List (Option (List UInt8)))} {given : Slot}
  (fits : countFits count vector = true)

include fits

theorem initContext_perform (state : State) :
    (Operation.initContext count vector (some given) (some slot)).perform state =
      state.respondStatus (Call.initContext count vector (some (.caller given))
        (some (.caller slot))) :=
  if_pos fits

theorem eventAt_caller_iff :
    Instant.eventAt (.caller slot)
        ⟨session, .operation (.initContext count vector (some given) (some slot))⟩ = some .init ↔
      ∃ commit, Verdict.initContext count vector (some (.caller given)) (some (.caller slot))
        session.state = .ok commit := by
  have through : (session.state.respondStatus (Call.initContext count vector
      (some (.caller given)) (some (.caller slot)))).answer.isOk = true ↔ _ :=
    State.isOk_respond_iff
  rw [Instant.eventAt_eq_some, ← through, ← initContext_perform fits]
  simp only [Instant.contextEvent, Moment.contextEvent, Option.ite_none_right_eq_some]
  exact and_iff_left rfl

theorem contextIn_initContext {commit : Commit Unit} (accepted : Verdict.initContext count vector
    (some (.caller given)) (some (.caller slot)) session.state = .ok commit) :
    ((Step.operation (.initContext count vector (some given) (some slot))).performAlone
        session).contextIn (.caller slot) = commit.objects.contexts (.caller slot) := by
  change ((Operation.initContext count vector (some given) (some slot)).perform
    session.state).state.objects.contexts (.caller slot) = _
  rw [initContext_perform fits, State.respondStatus_of_ok accepted, State.objects_committed]

end

theorem starts_iff_call {given : Slot} {options : InitOptions}
    (present : session.state.objects.options (.caller given) = some options)
    {items : List (List UInt8)} (few : items.length ≤ maxArgumentCount)
    (strings : ∀ octets ∈ items, 0 ∉ octets)
    {vector : Option (List (Option (List UInt8)))} (front : items.map some <+: vector.getD []) :
    let deed := Step.operation (.initContext items.length vector (some given) (some slot))
    session.Starts deed (.caller slot) chosen parsed ↔
      session.HasRoomFor deed ∧
        session.state.environment.Reads (items.map Text.Utf8.decodeLossy) options.domain parsed
          chosen := by
  intro deed
  have fits := Verdict.countFits_of_front front
  have passable : ContextHandle.Passable (items.map Text.Utf8.decodeLossy) := by
    refine ⟨by rwa [List.length_map], fun text member => ?_⟩
    obtain ⟨octets, among, rfl⟩ := List.mem_map.mp member
    exact fun c => Text.Utf8.toNat_ne_zero_of_mem_decodeLossy (strings octets among)
  constructor
  · rintro ⟨happened, there⟩
    obtain ⟨commit, accepted⟩ := (eventAt_caller_iff fits).mp happened
    obtain ⟨absent, domain, arguments, read, rfl⟩ :=
      (Verdict.initContext_strings front present).mp accepted
    have stored : some (Context.mk _ domain arguments) = _ :=
      ((contextIn_initContext fits accepted).trans (replace_self _ _ _)).symm.trans there
    cases stored
    obtain ⟨parses, resolved⟩ := Verdict.readContext_eq_ok.mp read
    exact ⟨absent, passable, parses, resolved⟩
  · rintro ⟨absent, _, parses, resolved⟩
    have accepted := (Verdict.initContext_strings front present).mpr
      ⟨absent, chosen, parsed, Verdict.readContext_eq_ok.mpr ⟨parses, resolved⟩, rfl⟩
    exact ⟨(eventAt_caller_iff fits).mpr ⟨_, accepted⟩,
      (contextIn_initContext fits accepted).trans (replace_self _ _ _)⟩

/-- A deed initialises a context with the arguments and the domain that it reads, exactly if there
is room for it and there are such. -/
theorem Step.Initialises.starts_iff (vacant : session.state.IsVacant)
    (own : session.HasOwnContexts) (initialises : deed.Initialises session place texts requested) :
    session.Starts deed place chosen parsed ↔
      session.HasRoomFor deed ∧
        session.state.environment.Reads texts requested parsed chosen := by
  cases initialises with
  | init slot arguments domain => exact starts_iff_init vacant own domain
  | new slot arguments domain => exact starts_iff_new vacant own (fun _ => rfl) rfl Iff.rfl
  | newFromEnvironment slot arguments =>
    exact starts_iff_new vacant own (fun _ => rfl) rfl Iff.rfl
  | call slot given present few strings front => exact starts_iff_call present few strings front

theorem arguments_after {instant : Instant} (own : instant.session.HasOwnContexts)
    {context : Context} (present : instant.session.contextIn place = some context)
    (spared : instant.eventAt place ≠ some .release) :
    ∃ after, instant.after.contextIn place = some after ∧ after.arguments = context.arguments := by
  have made := contextIn_after instant own place
  cases happened : instant.eventAt place with
  | none =>
    rw [happened] at made
    exact ⟨context, made.trans present, rfl⟩
  | some event =>
    rw [happened] at made
    cases event with
    | init => cases present.symm.trans made.1
    | shutdown =>
      have shut : instant.after.contextIn place =
          (instant.session.contextIn place).map Context.shutDown := made
      rw [present] at shut
      exact ⟨context.shutDown, shut, rfl⟩
    | release => exact absurd happened spared

/-- Deeds that do not release a context leave its arguments. -/
theorem arguments_afterDeeds (own : session.HasOwnContexts) {context : Context}
    (present : session.contextIn place = some context) {later : List Step}
    (spared : ∀ instant ∈ session.instants later, instant.eventAt place ≠ some .release) :
    (session.afterDeeds later).HasOwnContexts ∧
      ∃ after, (session.afterDeeds later).contextIn place = some after ∧
        after.arguments = context.arguments := by
  induction later generalizing session context with
  | nil => exact ⟨own, context, present, rfl⟩
  | cons deed rest ih =>
    rw [instants, List.forall_mem_cons] at spared
    obtain ⟨middle, presentThen, same⟩ := arguments_after own present spared.1
    obtain ⟨ownAfter, after, presentAfter, sameAfter⟩ :=
      ih (deed.performAlone_ownContexts own) presentThen spared.2
    exact ⟨ownAfter, after, presentAfter, sameAfter.trans same⟩

theorem unparsedArgument_of_le {context : Context} {index : Nat} {state : State}
    (present : state.objects.contexts place = some context)
    (beyond : context.arguments.unparsed.length ≤ index) :
    Verdict.unparsedArgument (some place) index state =
      .error (.argumentIndex index context.arguments.unparsed.length) := by
  simp only [Verdict.unparsedArgument, Verdict.findContext_eq_ok.mpr ⟨rfl, present⟩, bind,
    Except.bind, List.getElem?_eq_none beyond]

theorem tellsEach_of_some {state : State} {context : Context}
    (present : state.objects.contexts (.caller slot) = some context)
    (clean : ∀ text ∈ context.arguments.unparsed, Text.IsFreeOfNul text) :
    state.TellsEach slot context.arguments.unparsed where
  count := congrArg Effect.answer (State.respond_of_ok (unparsedCount_of_present present))
  within index bound := by
    have found := unparsedArgument_of_present present bound
    have same : Text.Utf8.throughCString (context.arguments.unparsed.getD index "") =
        context.arguments.unparsed[index] := by
      rw [List.getD_eq_getElem?_getD, List.getElem?_eq_getElem bound, Option.getD_some]
      exact Text.Utf8.throughCString_of_no_nul (clean _ (List.getElem_mem bound))
    rw [same] at found
    simp only [Operation.perform, ContextCall.perform, pointerTo, Option.map_some,
      State.perform_of_ok found]
    rfl
  beyond index beyond := by
    have refused := unparsedArgument_of_le present beyond
    simp only [Operation.perform, ContextCall.perform, pointerTo, Option.map_some,
      State.perform_of_error refused, true_and]
    exact congrArg some (Fault.diagnostic_argumentIndex _ _)

theorem unparsed_perform (own : session.HasOwnContexts) {context : Context}
    (present : session.contextIn (.handle slot) = some context)
    (clean : ∀ text ∈ context.arguments.unparsed, Text.IsFreeOfNul text) :
    ((ContextStep.use .unparsed).perform slot session).1 =
      .outcome (.value (.texts context.arguments.unparsed)) := by
  obtain ⟨place, here, there⟩ := Option.bind_eq_some_iff.mp present
  cases own slot place here
  obtain ⟨after, _, ended⟩ := unparsed_of_present there
  have same : context.arguments.unparsed.map Text.Utf8.throughCString =
      context.arguments.unparsed := by
    refine (List.map_congr_left fun text member => ?_).trans (List.map_id _)
    exact Text.Utf8.throughCString_of_no_nul (clean text member)
  rw [same, ← state_context session slot] at ended
  change ((session.context slot).2.respond
    (ContextHandle.unparsed (session.context slot).1.handle) _).1 = _
  rw [context_fst, here, respond_of_ok ended]

theorem tellsUnparsed_of_contextIn (own : session.HasOwnContexts) {context : Context}
    (present : session.contextIn place = some context)
    (clean : ∀ text ∈ context.arguments.unparsed, Text.IsFreeOfNul text) :
    session.TellsUnparsed context.arguments.unparsed place := by
  cases place with
  | handle slot => exact unparsed_perform own present clean
  | caller slot => exact tellsEach_of_some present clean
  | transient => trivial

/-- A context that is initialised from texts tells those outside every section until it is released.
-/
theorem keepsUnparsed_of_reads (vacant : session.state.IsVacant) (own : session.HasOwnContexts)
    (initialises : deed.Initialises session place texts requested)
    (room : session.HasRoomFor deed)
    (reads : session.state.environment.Reads texts requested parsed chosen)
    (clean : ∀ text ∈ parsed.unparsed, Text.IsFreeOfNul text) :
    Instant.eventAt place ⟨session, deed⟩ = some .init ∧
      (deed.performAlone session).KeepsUnparsed parsed.unparsed place := by
  obtain ⟨happened, there⟩ := (initialises.starts_iff vacant own).mpr ⟨room, reads⟩
  refine ⟨happened, fun later spared => ?_⟩
  obtain ⟨ownAfter, after, present, same⟩ :=
    arguments_afterDeeds (deed.performAlone_ownContexts own) there spared
  rw [← show after.arguments.unparsed = parsed.unparsed from congrArg Arguments.unparsed same]
    at clean ⊢
  exact tellsUnparsed_of_contextIn ownAfter present clean

/-- The texts outside every section can be initialised from in their turn, and all are kept. -/
theorem Environment.Reads.again {environment : Environment}
    (reads : environment.Reads texts requested parsed chosen) :
    environment.Reads parsed.unparsed requested { unparsed := parsed.unparsed } chosen := by
  obtain ⟨layout, rfl⟩ := Arguments.exists_layout_of_parse texts reads.read
  obtain ⟨_, readToo, told⟩ := Arguments.parse_tokens layout
  cases readToo.symm.trans reads.read
  rw [told.unparsed]
  have fewer := layout.plainTokens_sublist
  refine ⟨⟨fewer.length_le.trans reads.passable.few, fun text member => ?_⟩, ?_, reads.resolved⟩
  · exact reads.passable.clean text (fewer.subset member)
  · exact Arguments.parse_of_notMem (Arguments.sectionStart_notMem_plainTokens layout)

end

/-- A context that is initialised from texts tells those outside every section, unchanged and in
order, at every instant until it is released, also once it is shut down and whatever the environment
holds by then. In any session with the environment of the initialisation, those texts and the same
request for a domain initialise another context wherever there is room for it, which tells them all
in its turn. A vector of C strings initialises from the texts that their octets are leniently read
as. -/
theorem unparsed_arguments_survive (depth : Nat) (initial : Environment) (readings : Nat → RealTime)
    (deeds : List Step) (place : Place) (texts : List String) (requested : DomainId)
    (deed : Step) :
    let session := (Session.start depth initial readings).afterDeeds deeds
    deed.Initialises session place texts requested →
    Instant.eventAt place ⟨session, deed⟩ = some .init →
    ∃ layout : Arguments.Layout, layout.tokens = texts ∧
      (∀ other : Arguments.Layout, other.tokens = texts → other = layout) ∧
      (deed.performAlone session).KeepsUnparsed layout.plainTokens place ∧
      ∀ deep first clock before target again,
        let another := (Session.start deep first clock).afterDeeds before
        another.state.environment = session.state.environment →
        Step.Initialises another target layout.plainTokens requested again →
        another.HasRoomFor again →
          Instant.eventAt target ⟨another, again⟩ = some .init ∧
            (again.performAlone another).KeepsUnparsed layout.plainTokens target := by
  intro session initialises happened
  have vacant := afterDeeds_start_isVacant depth initial readings deeds
  have own := afterDeeds_start_hasOwnContexts depth initial readings deeds
  have made := contextIn_after ⟨session, deed⟩ own place
  rw [happened] at made
  obtain ⟨_, chosen, parsed, there⟩ := made
  obtain ⟨room, reads⟩ := (initialises.starts_iff vacant own).mp ⟨happened, there⟩
  obtain ⟨layout, rfl⟩ := Arguments.exists_layout_of_parse texts reads.read
  obtain ⟨_, readToo, told⟩ := Arguments.parse_tokens layout
  cases readToo.symm.trans reads.read
  have readsAgain := reads.again
  have clean := readsAgain.passable.clean
  refine ⟨layout, rfl, fun other same => Arguments.layout_tokens_injective same, ?_⟩
  rw [← told.unparsed]
  constructor
  · exact (keepsUnparsed_of_reads vacant own initialises room reads clean).2
  · intro deep first clock before target again another same initialisesAgain roomAgain
    rw [← same] at readsAgain
    have kept := keepsUnparsed_of_reads (afterDeeds_start_isVacant deep first clock before)
      (afterDeeds_start_hasOwnContexts deep first clock before) initialisesAgain roomAgain
      readsAgain clean
    exact kept

/-- The C strings `a` with an octet that is no UTF-8 behind it, `--ros-args`, `-r`, `a:=b`, `--` and
`b`: the first and the last are told when the context is shut down, also once `ROS_DOMAIN_ID` holds
what is no domain, and a new context is initialised from them alone. -/
theorem unparsed_arguments_survive_shutdown :
    let session := (Session.start 3 .empty fun _ => ⟨.ok .zero, .ok .zero⟩).afterDeeds
      [.operation (.options (some 1) .init)]
    let items : List (List UInt8) := [[0x61, 0xFF],
      [0x2D, 0x2D, 0x72, 0x6F, 0x73, 0x2D, 0x61, 0x72, 0x67, 0x73], [0x2D, 0x72],
      [0x61, 0x3A, 0x3D, 0x62], [0x2D, 0x2D], [0x62]]
    let deed := Step.operation
      (.initContext 6 (some (items.map some ++ [none])) (some 1) (some 2))
    let later : List Step := [.operation (.context (some 2) .shutdown),
      .operation (.setVariable .rosDomainId (some [0x2D]))]
    let again := Step.context 3 (.new ["a\uFFFD", "b"] none)
    ((deed.performAlone session).afterDeeds later).TellsUnparsed ["a\uFFFD", "b"] (.caller 2) ∧
      (again.performAlone session).TellsUnparsed ["a\uFFFD", "b"] (.handle 3) := by
  intro session items deed later again
  have strings : ∀ octets ∈ items, 0 ∉ octets := by decide
  have initialises : deed.Initialises session (.caller 2)
      ["a\uFFFD", "--ros-args", "-r", "a:=b", "--", "b"] .unset :=
    .call 2 1 rfl (by decide) strings (List.prefix_append _ _)
  obtain ⟨layout, _, unique, kept, keptAgain⟩ := unparsed_arguments_survive 3 .empty
    (fun _ => ⟨.ok .zero, .ok .zero⟩) [.operation (.options (some 1) .init)] (.caller 2)
    ["a\uFFFD", "--ros-args", "-r", "a:=b", "--", "b"] .unset deed initialises (by decide)
  have assigns : Assigns "a:=b" ("a", "b") := assignment?_eq_some_iff_assigns.mp (by decide)
  obtain rfl := unique (.plain "a\uFFFD" (by decide) (.enclosed
    [.setting .remap "-r" "a:=b" (by decide) ⟨_, assigns⟩] (.plain "b" (by decide) .done))) rfl
  refine ⟨kept later (by decide), ?_⟩
  exact (keptAgain 3 .empty (fun _ => ⟨.ok .zero, .ok .zero⟩)
    [.operation (.options (some 1) .init)] (.handle 3) again rfl (.new 3 _ none) rfl).2 []
    (List.forall_mem_nil _)

end RosClient
