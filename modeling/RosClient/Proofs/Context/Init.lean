import RosClient.Proofs.Context.Handle
import RosClient.Proofs.Context.Release
import RosClient.Proofs.Text.Utf8

namespace RosClient

/-- Whether a text has no NUL character. -/
def Text.IsFreeOfNul (text : String) : Prop :=
  ∀ c ∈ text.toList, c.toNat ≠ 0

/-- Arguments that a call can be given: they are not too many, and none has a NUL. -/
structure ContextHandle.Passable (arguments : List String) : Prop where
  few : arguments.length ≤ maxArgumentCount
  clean : ∀ argument ∈ arguments, Text.IsFreeOfNul argument

/-- Whether the place of the options of an initialisation is free. -/
def State.IsVacant (state : State) : Prop :=
  state.objects.options .transient = none

theorem Objects.setOptions_setOptions (objects : Objects) (place : Place)
    (first second : Option InitOptions) :
    (objects.setOptions place first).setOptions place second = objects.setOptions place second := by
  simp only [setOptions, replace_replace]

theorem Objects.setOptions_of_eq {objects : Objects} {place : Place}
    {options : Option InitOptions} (same : objects.options place = options) :
    objects.setOptions place options = objects := by
  simp only [setOptions, replace_of_eq same]

/-- The objects once a context is initialised at a place, under the next instance id. -/
def Objects.initialised (objects : Objects) (place : Place) (domain : DomainId)
    (arguments : Arguments) : Objects :=
  { objects.setContext place (some ⟨some objects.nextId, domain, arguments⟩) with
    nextId := objects.nextId + 1 }

namespace Verdict

theorem initOptions_of_none {state : State} {place : Place}
    (absent : state.objects.options place = none) :
    initOptions (some place) state =
      .ok (state.commit (state.objects.setOptions place (some .new))) :=
  initOptions_eq_ok.mpr ⟨place, rfl, absent, rfl⟩

theorem setDomain_of_some {state : State} {place : Place} {options : InitOptions}
    (present : state.objects.options place = some options) (domain : DomainId) :
    setDomain (some place) domain state =
      .ok (state.commit (state.objects.setOptions place (some ⟨domain⟩))) :=
  setDomain_eq_ok.mpr ⟨place, options, ⟨rfl, present⟩, rfl⟩

theorem finiOptions_of_some {state : State} {place : Place} {options : InitOptions}
    (present : state.objects.options place = some options) :
    finiOptions (some place) state =
      .ok (state.commit (state.objects.setOptions place none)) :=
  finiOptions_eq_ok.mpr ⟨place, options, ⟨rfl, present⟩, rfl⟩

theorem options_of_initContext {state : State} {count : Int}
    {vector : Option (List (Option (List UInt8)))} {options context : Option Place}
    {commit : Commit Unit}
    (accepted : initContext count vector options context state = .ok commit) :
    commit.objects.options = state.objects.options := by
  obtain ⟨_, _, _, _, _, _, _, _, _, _, _, _, rfl⟩ := initContext_eq_ok.mp accepted
  rfl

theorem decodeItems_map_some (index : Nat) (items : List (List UInt8)) :
    decodeItems index (items.map some) = .ok (items.map Text.Utf8.decodeLossy) := by
  induction items generalizing index with
  | nil => rfl
  | cons octets rest ih => simp only [List.map_cons, decodeItems, ih, Except.map]

theorem decodeItems_encode (index : Nat) (arguments : List String) :
    decodeItems index (arguments.map fun argument => some (Text.Utf8.encode argument)) =
      .ok arguments := by
  have read := decodeItems_map_some index (arguments.map Text.Utf8.encode)
  have same : Text.Utf8.decodeLossy ∘ Text.Utf8.encode = id :=
    funext Text.Utf8.decodeLossy_encode
  rwa [List.map_map, List.map_map, same, List.map_id] at read

theorem checkVector_items {α : Type} (arguments : List α)
    (item : α → Option (List UInt8)) :
    checkVector arguments.length (some (arguments.map item)) = .ok () := by
  have counted : ¬ (arguments.length : Int) < 0 := by omega
  simp [checkVector, counted]

end Verdict

namespace ContextHandle

theorem nulPosition?_eq_none_iff {text : String} :
    nulPosition? text = none ↔ Text.IsFreeOfNul text := by
  have absent : nulPosition? text = none ↔ 0 ∉ Text.Utf8.encode text := by
    simp only [nulPosition?, List.findIdx?_eq_none_iff, decide_eq_false_iff_not]
    exact ⟨fun free member => free 0 member rfl, fun free _ member same => free (same ▸ member)⟩
  rw [absent, Text.Utf8.zero_mem_encode, Text.IsFreeOfNul]
  simp only [not_exists, not_and, ne_eq]

theorem nulByte?_eq_none_iff {index : Nat} {arguments : List String} :
    nulByte? index arguments = none ↔ ∀ argument ∈ arguments, Text.IsFreeOfNul argument := by
  induction arguments generalizing index with
  | nil => simp [nulByte?]
  | cons argument rest ih =>
    rw [List.forall_mem_cons, ← nulPosition?_eq_none_iff, nulByte?]
    cases nulPosition? argument with
    | none => simpa using ih
    | some position => simp

theorem rejection?_of_many {arguments : List String}
    (many : maxArgumentCount < arguments.length) :
    rejection? arguments = some (.tooManyArguments arguments.length) :=
  if_pos many

theorem rejection?_of_few {arguments : List String}
    (few : arguments.length ≤ maxArgumentCount) :
    rejection? arguments =
      (nulByte? 0 arguments).map fun (index, position) => .nulByte index position :=
  if_neg (Nat.not_lt.mpr few)

theorem rejection?_eq_none_iff {arguments : List String} :
    rejection? arguments = none ↔ Passable arguments := by
  rcases Nat.lt_or_ge maxArgumentCount arguments.length with many | few
  · rw [rejection?_of_many many]
    exact iff_of_false nofun fun passable => absurd passable.few (Nat.not_le.mpr many)
  · rw [rejection?_of_few few, Option.map_eq_none_iff, nulByte?_eq_none_iff]
    exact ⟨fun clean => ⟨few, clean⟩, Passable.clean⟩

/-- The call that an initialisation is for. -/
def initCall (handle : Handle) (arguments : List String) : Call Unit :=
  Call.initContext arguments.length
    (some (arguments.map fun argument => some (Text.Utf8.encode argument))) transientOptions handle

def initVerdict (handle : Handle) (arguments : List String) : Verdict Unit :=
  Verdict.initContext arguments.length
    (some (arguments.map fun argument => some (Text.Utf8.encode argument))) transientOptions handle

instance (handle : Handle) (arguments : List String) :
    Settles (initCall handle arguments) Fault.status (initVerdict handle arguments) :=
  inferInstanceAs (Settles (Call.initContext _ _ _ _) _ _)

/-- The state once the options of an initialisation are made. -/
def withOptions (domain : Option DomainId) (state : State) : State :=
  { state with
    objects := state.objects.setOptions .transient (some ⟨domain.getD .unset⟩)
    calls := state.calls + 1 + domain.elim 0 fun _ => 1 }

/-- The state after a call behind which the options of the initialisation are released. -/
def withoutOptions (state : State) : State :=
  { state with
    objects := state.objects.setOptions .transient none
    calls := state.calls + 1 }

variable {state : State} {place : Place} {arguments : List String} {domain : Option DomainId}

theorem options_withOptions (domain : Option DomainId) (state : State) :
    (withOptions domain state).objects.options .transient = some ⟨domain.getD .unset⟩ :=
  replace_self state.objects.options .transient _

theorem makeOptions_of_vacant (vacant : state.IsVacant) (domain : Option DomainId) :
    makeOptions domain state = .ok () (withOptions domain state) := by
  have made : attempt .initOptions (Call.initOptions transientOptions) state = .ok () _ :=
    attempt_of_ok (Verdict.initOptions_of_none vacant)
  rw [State.committed_commit] at made
  cases domain with
  | none => exact bind_of_ok made
  | some domain =>
    have set : attempt .setDomain (Call.setDomain transientOptions domain)
        (withOptions none state) = .ok () _ :=
      attempt_of_ok (Verdict.setDomain_of_some (options_withOptions none state) domain)
    rw [State.committed_commit, withOptions, Objects.setOptions_setOptions] at set
    exact (bind_of_ok made).trans (orCleanUp_of_ok set)

theorem dropOptions_of_some {options : InitOptions}
    (present : state.objects.options .transient = some options) :
    dropOptions state = .ok () (withoutOptions state) := by
  have dropped : dropOptions state = .ok () _ :=
    discard_of_ok (Verdict.finiOptions_of_some present)
  rw [State.committed_commit] at dropped
  exact dropped

theorem init_eq (clean : rejection? arguments = none) :
    init (some place) arguments domain =
      makeOptions domain >>= fun _ => initWithOptions (some place) arguments := by
  unfold init
  rw [clean]
  rfl

theorem init_of_refused (vacant : state.IsVacant) (clean : rejection? arguments = none)
    {fault : Fault} (refused : initVerdict (some place) arguments (withOptions domain state) =
      .error fault) :
    init (some place) arguments domain state =
      .error (.failed .init fault.status (failureMessage .initContext fault))
        { state with
          pending := none
          log := state.log ++ (.diagnostic fault.diagnostic ::
            (state.overwritten ++ [.failure (failureMessage .initContext fault)]))
          calls := (withOptions domain state).calls + 2 } := by
  have failed : orCleanUp (attempt .initContext (initCall (some place) arguments)) dropOptions
      (withOptions domain state) = .error _ _ :=
    orCleanUp_of_error (attempt_of_error refused)
  let middle := (withOptions domain state).afterFailure fault
    (.failure (failureMessage .initContext fault))
  have dropped : dropOptions middle = .ok () (withoutOptions middle) :=
    dropOptions_of_some (options_withOptions domain state)
  rw [dropped] at failed
  rw [init_eq clean, bind_of_ok (makeOptions_of_vacant vacant domain), initWithOptions]
  refine (bind_of_error failed).trans ?_
  simp only [stateOf, withoutOptions, middle, State.afterFailure, withOptions,
    Objects.setOptions_setOptions, Objects.setOptions_of_eq vacant]
  rfl

theorem init_of_accepted (vacant : state.IsVacant) (clean : rejection? arguments = none)
    {commit : Commit Unit}
    (accepted : initVerdict (some place) arguments (withOptions domain state) = .ok commit) :
    let after := withoutOptions ((withOptions domain state).committed commit)
    init (some place) arguments domain state = .ok () (after.write
      [.contextReady (after.objects.contextId (some place)) arguments.length]) := by
  have initialised : orCleanUp (attempt .initContext (initCall (some place) arguments))
      dropOptions (withOptions domain state) = .ok () _ :=
    orCleanUp_of_ok (attempt_of_ok accepted)
  have kept : commit.objects.options .transient = some ⟨domain.getD .unset⟩ := by
    rw [Verdict.options_of_initContext accepted]
    exact options_withOptions domain state
  have finished : attempt .finiOptions (Call.finiOptions transientOptions)
      ((withOptions domain state).committed commit) = .ok () _ :=
    attempt_of_ok (Verdict.finiOptions_of_some kept)
  rw [State.committed_commit] at finished
  rw [init_eq clean, bind_of_ok (makeOptions_of_vacant vacant domain)]
  exact (bind_of_ok initialised).trans (bind_of_ok (orCleanUp_of_ok finished))

/-- What is reported of an initialisation. -/
def initRecords (id : Nat) (domain : DomainId) (parsed : Arguments) (count : Int) :
    List LogRecord :=
  [.argumentsRead parsed.remaps.length parsed.params.length parsed.paramsFiles.length
      parsed.logLevel parsed.enclave,
    .contextInitialized id domain count]

/-- The call of an initialisation reads the arguments as they were given and the domain that was
asked for, and refuses or commits accordingly. -/
theorem initVerdict_withOptions (absent : state.objects.contexts place = none) :
    initVerdict (some place) arguments (withOptions domain state) =
      (Verdict.readContext state.environment (domain.getD .unset) arguments).map
        fun (chosen, parsed) =>
          { value := ()
            objects := (withOptions domain state).objects.initialised place chosen parsed
            log := initRecords state.objects.nextId chosen parsed arguments.length } := by
  have found := Verdict.findOptions_eq_ok.mpr ⟨rfl, options_withOptions domain state⟩
  have free : (withOptions domain state).objects.contexts place = none := absent
  have whole : (arguments.map fun argument => some (Text.Utf8.encode argument)).take
      arguments.length = arguments.map fun argument => some (Text.Utf8.encode argument) :=
    List.take_of_length_le (Nat.le_of_eq (List.length_map _))
  unfold initVerdict Verdict.initContext
  simp only [Verdict.checkVector_items, transientOptions, Verdict.required, found, free, bind,
    Except.bind, Option.getD_some, Int.toNat_natCast, whole, Verdict.decodeItems_encode]
  change _ = (Verdict.readContext (withOptions domain state).environment _ _).map _
  cases Verdict.readContext (withOptions domain state).environment (domain.getD .unset)
    arguments <;> rfl

theorem init_of_read (vacant : state.IsVacant) (clean : rejection? arguments = none)
    (absent : state.objects.contexts place = none) {chosen : DomainId} {parsed : Arguments}
    (read : Verdict.readContext state.environment (domain.getD .unset) arguments =
      .ok (chosen, parsed)) :
    ∃ after, init (some place) arguments domain state = .ok () after ∧
      after.objects = state.objects.initialised place chosen parsed := by
  have accepted : initVerdict (some place) arguments (withOptions domain state) = _ :=
    initVerdict_withOptions absent
  rw [read] at accepted
  refine ⟨_, init_of_accepted vacant clean accepted, ?_⟩
  change Objects.initialised (((withOptions domain state).objects).setOptions .transient none) _ _ _
    = _
  rw [withOptions, Objects.setOptions_setOptions, Objects.setOptions_of_eq vacant]

theorem initVerdict_of_unread (absent : state.objects.contexts place = none) {fault : Fault}
    (unread : Verdict.readContext state.environment (domain.getD .unset) arguments = .error fault) :
    initVerdict (some place) arguments (withOptions domain state) = .error fault := by
  rw [initVerdict_withOptions absent, unread]
  rfl

theorem init_isVacant (vacant : state.IsVacant) (handle : Handle) (arguments : List String)
    (domain : Option DomainId) : (stateOf (init handle arguments domain state)).IsVacant := by
  cases clean : rejection? arguments with
  | some found =>
    rw [init, clean]
    exact vacant
  | none =>
    cases handle with
    | none =>
      rw [init, clean]
      exact vacant
    | some place =>
      cases outcome : initVerdict (some place) arguments (withOptions domain state) with
      | error fault =>
        rw [init_of_refused vacant clean outcome]
        exact vacant
      | ok commit =>
        rw [init_of_accepted vacant clean outcome]
        exact replace_self commit.objects.options .transient none

/-- The state once the place of a new context is cleared. -/
def cleared (slot : Slot) (state : State) : State :=
  { state with objects := state.objects.setContext (.handle slot) none }

variable {slot : Slot}

theorem contexts_cleared (slot : Slot) (state : State) :
    (cleared slot state).objects.contexts (.handle slot) = none :=
  replace_self state.objects.contexts (.handle slot) none

theorem new_of_ok {after : State}
    (ended : init (some (.handle slot)) arguments domain (cleared slot state) = .ok () after) :
    new slot arguments domain state = .ok (some (.handle slot)) after := by
  have made : create slot state = .ok (some (.handle slot)) (cleared slot state) := bind_of_ok rfl
  exact (bind_of_ok made).trans (bind_of_ok (orCleanUp_of_ok ended))

theorem new_of_error {e : Error} {after : State}
    (ended : init (some (.handle slot)) arguments domain (cleared slot state) = .error e after) :
    new slot arguments domain state = .error e after := by
  have made : create slot state = .ok (some (.handle slot)) (cleared slot state) := bind_of_ok rfl
  have absent : after.objects.contexts (.handle slot) = none := by
    rcases init_change (some (.handle slot)) arguments domain (cleared slot state) with
      ⟨_, _, failed, same⟩ | ⟨_, _, _, passed, _⟩
    · cases ended.symm.trans failed
      rw [show after.objects.contexts = (cleared slot state).objects.contexts from
        congrArg ContextView.context same]
      exact contexts_cleared slot state
    · cases ended.symm.trans passed
  have gone : after.objects.contextAt (some (.handle slot)) = none := absent
  have cleaned : orCleanUp (init (some (.handle slot)) arguments domain)
      (modify (release (some (.handle slot)))) (cleared slot state) =
        .error e (release (some (.handle slot)) after) :=
    orCleanUp_of_error ended
  rw [release_of_none gone] at cleaned
  exact (bind_of_ok made).trans (bind_of_error cleaned)

theorem new_isVacant (vacant : state.IsVacant) (slot : Slot) (arguments : List String)
    (domain : Option DomainId) : (stateOf (new slot arguments domain state)).IsVacant := by
  have vacantToo : (cleared slot state).IsVacant := vacant
  have free := init_isVacant vacantToo (some (.handle slot)) arguments domain
  cases ended : init (some (.handle slot)) arguments domain (cleared slot state) with
  | ok _ after =>
    rw [ended] at free
    rw [new_of_ok ended]
    exact free
  | error e after =>
    rw [ended] at free
    rw [new_of_error ended]
    exact free

end ContextHandle

end RosClient
