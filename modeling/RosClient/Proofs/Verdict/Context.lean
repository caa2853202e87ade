import RosClient.Call.Context
import RosClient.Proofs.Verdict.Basic

namespace RosClient

namespace Verdict

def initOptions (pointer : Option Place) : Verdict Unit := fun state => do
  let place ← required "options" pointer
  match state.objects.options place with
  | some _ => .error .optionsInitialized
  | none => .ok (state.commit (state.objects.setOptions place (some .new)))

/-- The initialised options behind a pointer, and their place. -/
def findOptions (pointer : Option Place) (state : State) : Except Fault (Place × InitOptions) := do
  let place ← required "options" pointer
  match state.objects.options place with
  | some options => .ok (place, options)
  | none => .error .optionsUninitialized

def setDomain (pointer : Option Place) (domain : DomainId) : Verdict Unit := fun state => do
  let (place, _) ← findOptions pointer state
  .ok (state.commit (state.objects.setOptions place (some ⟨domain⟩)))

def requestedDomain (pointer : Option Place) (output : Bool) : Verdict DomainId := fun state => do
  let _ ← required "options" pointer
  requireOutput "domain_id" output
  let (_, options) ← findOptions pointer state
  .ok (state.answer options.domain)

def finiOptions (pointer : Option Place) : Verdict Unit := fun state => do
  let (place, _) ← findOptions pointer state
  .ok (state.commit (state.objects.setOptions place none))

/-- Refuses a negative count, and a positive one without a vector. -/
def checkVector (count : Int) (vector : Option (List (Option (List UInt8)))) :
    Except Fault Unit :=
  if count < 0 then .error .negativeCount
  else if 0 < count ∧ vector.isNone then .error .missingVector
  else .ok ()

/-- The texts of the items of a vector, the first of which has the given index. -/
def decodeItems (index : Nat) : List (Option (List UInt8)) → Except Fault (List String)
  | [] => .ok []
  | none :: _ => .error (.nullItem index)
  | some octets :: rest =>
    (decodeItems (index + 1) rest).map (Text.Utf8.decodeLossy octets :: ·)

/-- What initialisation makes of tokens and a request for a domain. -/
def readContext (environment : Environment) (requested : DomainId) (tokens : List String) :
    Except Fault (DomainId × Arguments) := do
  let arguments ← (Arguments.parse tokens).mapError .badArguments
  let domain ← (DomainId.resolve environment requested).mapError .badDomain
  .ok (domain, arguments)

/-- Initialises a context from the first `count` items of a vector. It takes the next instance id.
-/
def initContext (count : Int) (vector : Option (List (Option (List UInt8))))
    (options context : Option Place) : Verdict Unit := fun state => do
  checkVector count vector
  let _ ← required "options" options
  let place ← required "context" context
  let (_, requested) ← findOptions options state
  match state.objects.contexts place with
  | some _ => .error .contextInitialized
  | none =>
    let tokens ← decodeItems 0 ((vector.getD []).take count.toNat)
    let (domain, arguments) ← readContext state.environment requested.domain tokens
    let id := state.objects.nextId
    let objects := state.objects.setContext place (some ⟨some id, domain, arguments⟩)
    .ok (state.commit { objects with nextId := id + 1 }
      [.argumentsRead arguments.remaps.length arguments.params.length
          arguments.paramsFiles.length arguments.logLevel arguments.enclave,
        .contextInitialized id domain count])

/-- The initialised context behind a pointer, and its place. -/
def findContext (pointer : Option Place) (state : State) : Except Fault (Place × Context) := do
  let place ← required "context" pointer
  match state.objects.contexts place with
  | some context => .ok (place, context)
  | none => .error .contextUninitialized

def shutdownContext (pointer : Option Place) : Verdict Unit := fun state => do
  let (place, context) ← findContext pointer state
  match context.instance? with
  | none => .error .contextShutDown
  | some id =>
    .ok (state.commit (state.objects.setContext place (some context.shutDown))
      [.contextShutDown id])

/-- The domain of a valid context. -/
def contextDomain (pointer : Option Place) (output : Bool) : Verdict DomainId := fun state => do
  let place ← required "context" pointer
  requireOutput "domain_id" output
  match state.objects.contexts place with
  | some context =>
    if context.isValid then .ok (state.answer context.domain) else .error .contextInvalid
  | none => .error .contextInvalid

def unparsedCount (pointer : Option Place) (output : Bool) : Verdict Nat := fun state => do
  let _ ← required "context" pointer
  requireOutput "count" output
  let (_, context) ← findContext pointer state
  .ok (state.answer context.arguments.unparsed.length)

/-- The unparsed argument with an index, which the caller gets as a C string. -/
def unparsedArgument (pointer : Option Place) (index : Nat) : Verdict String := fun state => do
  let (_, context) ← findContext pointer state
  match context.arguments.unparsed[index]? with
  | some argument => .ok (state.answer (Text.Utf8.throughCString argument))
  | none => .error (.argumentIndex index context.arguments.unparsed.length)

/-- What is reported when a context's arguments are released. -/
def releaseRecords (arguments : Arguments) : List LogRecord :=
  if arguments.remaps.isEmpty && arguments.params.isEmpty then []
  else [.argumentsReleased arguments.remaps.length arguments.params.length]

/-- Releases a context that has been shut down. -/
def finiContext (pointer : Option Place) : Verdict Unit := fun state => do
  let (place, context) ← findContext pointer state
  if context.isValid then .error .contextValid
  else
    .ok (state.commit (state.objects.setContext place none) (releaseRecords context.arguments))

variable {state : State}

theorem initOptions_eq_ok {options : Option Place} {commit : Commit Unit} :
    initOptions options state = .ok commit ↔
      ∃ place, options = some place ∧ state.objects.options place = none ∧
        state.commit (state.objects.setOptions place (some .new)) = commit := by
  simp only [initOptions, bind_eq_ok, required_eq_ok]
  constructor
  · rintro ⟨place, rfl, made⟩
    split at made
    · cases made
    · next absent => exact ⟨place, rfl, absent, Except.ok.inj made⟩
  · rintro ⟨place, rfl, absent, rfl⟩
    exact ⟨place, rfl, by rw [absent]⟩

theorem findOptions_eq_ok {options : Option Place} {place : Place} {found : InitOptions} :
    findOptions options state = .ok (place, found) ↔
      options = some place ∧ state.objects.options place = some found := by
  simp only [findOptions, bind_eq_ok, required_eq_ok]
  constructor
  · rintro ⟨here, rfl, looked⟩
    split at looked
    · next present =>
      cases looked
      exact ⟨rfl, present⟩
    · cases looked
  · rintro ⟨rfl, present⟩
    exact ⟨place, rfl, by rw [present]⟩

theorem findOptions_of_none {place : Place} (absent : state.objects.options place = none) :
    findOptions (some place) state = .error .optionsUninitialized := by
  simp only [findOptions, required, absent, bind, Except.bind]

theorem setDomain_eq_ok {options : Option Place} {domain : DomainId} {commit : Commit Unit} :
    setDomain options domain state = .ok commit ↔
      ∃ place found, (options = some place ∧ state.objects.options place = some found) ∧
        state.commit (state.objects.setOptions place (some ⟨domain⟩)) = commit := by
  simp only [setDomain, bind_eq_ok, findOptions_eq_ok, Prod.exists, Except.ok.injEq]

theorem finiOptions_eq_ok {options : Option Place} {commit : Commit Unit} :
    finiOptions options state = .ok commit ↔
      ∃ place found, (options = some place ∧ state.objects.options place = some found) ∧
        state.commit (state.objects.setOptions place none) = commit := by
  simp only [finiOptions, bind_eq_ok, findOptions_eq_ok, Prod.exists, Except.ok.injEq]

theorem requestedDomain_looks (options : Option Place) (output : Bool) :
    (requestedDomain options output).Looks := by
  intro state commit accepted
  simp only [requestedDomain, bind_eq_ok, Except.ok.injEq] at accepted
  obtain ⟨_, _, _, _, found, _, rfl⟩ := accepted
  exact ⟨_, rfl⟩

theorem findContext_eq_ok {context : Option Place} {place : Place} {found : Context} :
    findContext context state = .ok (place, found) ↔
      context = some place ∧ state.objects.contexts place = some found := by
  simp only [findContext, bind_eq_ok, required_eq_ok]
  constructor
  · rintro ⟨here, rfl, looked⟩
    split at looked
    · next present =>
      cases looked
      exact ⟨rfl, present⟩
    · cases looked
  · rintro ⟨rfl, present⟩
    exact ⟨place, rfl, by rw [present]⟩

theorem findContext_of_none {place : Place} (absent : state.objects.contexts place = none) :
    findContext (some place) state = .error .contextUninitialized := by
  simp only [findContext, required, absent, bind, Except.bind]

theorem initContext_eq_ok {count : Int} {vector : Option (List (Option (List UInt8)))}
    {options context : Option Place} {commit : Commit Unit} :
    initContext count vector options context state = .ok commit ↔
      checkVector count vector = .ok () ∧ ∃ place, context = some place ∧
        ∃ owner requested, (options = some owner ∧ state.objects.options owner = some requested) ∧
          state.objects.contexts place = none ∧
          ∃ tokens, decodeItems 0 ((vector.getD []).take count.toNat) = .ok tokens ∧
            ∃ domain arguments,
              readContext state.environment requested.domain tokens = .ok (domain, arguments) ∧
              state.commit
                { state.objects.setContext place
                    (some ⟨some state.objects.nextId, domain, arguments⟩) with
                  nextId := state.objects.nextId + 1 }
                [.argumentsRead arguments.remaps.length arguments.params.length
                    arguments.paramsFiles.length arguments.logLevel arguments.enclave,
                  .contextInitialized state.objects.nextId domain count] = commit := by
  simp only [initContext, bind_eq_ok, required_eq_ok, findOptions_eq_ok, Prod.exists]
  constructor
  · intro accepted
    obtain ⟨_, counted, _, _, place, here, owner, requested, found, committed⟩ := accepted
    split at committed
    · cases committed
    · next absent =>
      simp only [bind_eq_ok, Prod.exists, Except.ok.injEq] at committed
      exact ⟨counted, place, here, owner, requested, found, absent, committed⟩
  · intro accepted
    obtain ⟨counted, place, here, owner, requested, found, absent, committed⟩ := accepted
    refine ⟨(), counted, owner, found.1, place, here, owner, requested, found, ?_⟩
    simp only [absent, bind_eq_ok, Prod.exists, Except.ok.injEq]
    exact committed

theorem contextDomain_looks (context : Option Place) (output : Bool) :
    (contextDomain context output).Looks := by
  intro state commit accepted
  simp only [contextDomain, bind_eq_ok] at accepted
  obtain ⟨place, _, _, _, looked⟩ := accepted
  split at looked
  · split at looked
    · cases looked
      exact ⟨_, rfl⟩
    · cases looked
  · cases looked

theorem unparsedCount_looks (context : Option Place) (output : Bool) :
    (unparsedCount context output).Looks := by
  intro state commit accepted
  simp only [unparsedCount, bind_eq_ok, Except.ok.injEq] at accepted
  obtain ⟨_, _, _, _, found, _, rfl⟩ := accepted
  exact ⟨_, rfl⟩

theorem unparsedArgument_looks (context : Option Place) (index : Nat) :
    (unparsedArgument context index).Looks := by
  intro state commit accepted
  simp only [unparsedArgument, bind_eq_ok] at accepted
  obtain ⟨found, _, looked⟩ := accepted
  split at looked
  · cases looked
    exact ⟨_, rfl⟩
  · cases looked

theorem isContextValid_iff {objects : Objects} {context : Option Place} :
    objects.isContextValid context = true ↔
      ∃ place found id, context = some place ∧ objects.contexts place = some found ∧
        found.instance? = some id := by
  cases context with
  | none => simp [Objects.isContextValid, Objects.contextAt]
  | some place =>
    simp [Objects.isContextValid, Objects.contextAt, Option.any_eq_true, Context.isValid,
      Option.isSome_iff_exists]

theorem shutdownContext_eq_ok {context : Option Place} {commit : Commit Unit} :
    shutdownContext context state = .ok commit ↔
      ∃ place found, (context = some place ∧ state.objects.contexts place = some found) ∧
        ∃ id, found.instance? = some id ∧
          state.commit (state.objects.setContext place (some found.shutDown))
            [.contextShutDown id] = commit := by
  simp only [shutdownContext, bind_eq_ok, findContext_eq_ok, Prod.exists]
  refine exists_congr fun place => exists_congr fun found => and_congr_right fun _ => ?_
  cases found.instance? with
  | none => simp only [reduceCtorEq, false_and, exists_false]
  | some id => simp only [Except.ok.injEq, Option.some.injEq, exists_eq_left']

theorem finiContext_eq_ok {context : Option Place} {commit : Commit Unit} :
    finiContext context state = .ok commit ↔
      ∃ place found, (context = some place ∧ state.objects.contexts place = some found) ∧
        found.isValid = false ∧
          state.commit (state.objects.setContext place none) (releaseRecords found.arguments) =
            commit := by
  simp only [finiContext, bind_eq_ok, findContext_eq_ok, refusal_eq_ok, Prod.exists,
    Bool.not_eq_true, Except.ok.injEq]

theorem decodeItems_checks (index : Nat) (items : List (Option (List UInt8))) :
    Checks (Call.decodeItems index items) Fault.status fun _ => decodeItems index items := by
  intro state
  induction items generalizing index with
  | nil => rfl
  | cons item rest ih =>
    cases item with
    | none => rfl
    | some octets =>
      have following := ih (index + 1)
      change EStateM.bind (Call.decodeItems (index + 1) rest) _ state =
        state.sift _ ((decodeItems (index + 1) rest).map _)
      simp only [EStateM.bind, following]
      cases decodeItems (index + 1) rest <;> rfl

theorem parseArguments_checks (tokens : List String) :
    Checks (Call.parseArguments tokens) Fault.status
      fun _ => (Arguments.parse tokens).mapError .badArguments := by
  intro state
  unfold Call.parseArguments
  cases Arguments.parse tokens <;> rfl

theorem resolveDomain_checks (requested : DomainId) :
    Checks (Call.resolveDomain requested) Fault.status
      fun state => (DomainId.resolve state.environment requested).mapError .badDomain := by
  intro state
  rw [Call.resolveDomain, get_bind]
  dsimp only
  cases DomainId.resolve state.environment requested <;> rfl

theorem findContext_checks (context : Option Place) (status : Fault → Status)
    (same : status .contextUninitialized = status (.nullArgument "context")) :
    Checks (Call.findContext context (status (.nullArgument "context"))) status
      (findContext context) := by
  intro state
  cases context with
  | none => rfl
  | some place =>
    unfold Call.findContext
    cases present : state.objects.contexts place with
    | some context =>
      simp only [required_bind, get_bind, present, findContext_eq_ok.mpr ⟨rfl, present⟩]
      rfl
    | none =>
      simp only [required_bind, get_bind, present, findContext_of_none present, ← same]
      rfl

instance (options : Option Place) :
    Settles (Call.initOptions options) Fault.status (initOptions options) where
  settles state := by
    refine (required_checks "options" options Fault.status).bind ?_
    intro place _
    rw [get_bind]
    cases state.objects.options place with
    | some found => rfl
    | none => exact (state.settle_commit _ _).symm

instance (options : Option Place) (domain : DomainId) :
    Settles (Call.setDomain options domain) Fault.status (setDomain options domain) where
  settles state := by
    cases options with
    | none => rfl
    | some place =>
      unfold Call.setDomain setDomain
      rw [required_bind, get_bind]
      cases present : state.objects.options place with
      | some found =>
        rw [findOptions_eq_ok.mpr ⟨rfl, present⟩]
        exact (state.settle_commit _ _).symm
      | none =>
        rw [findOptions_of_none present]
        rfl

instance (options : Option Place) (output : Bool) :
    Settles (Call.requestedDomain options output) Fault.status
      (requestedDomain options output) where
  settles state := by
    refine (required_checks "options" options Fault.status).bind ?_
    intro place given
    refine (requireOutput_checks "domain_id" output).bind ?_
    intro _ _
    rw [get_bind, required_eq_ok.mp given]
    cases present : state.objects.options place with
    | some found =>
      rw [findOptions_eq_ok.mpr ⟨rfl, present⟩]
      exact (state.settle_answer _ _).symm
    | none =>
      rw [findOptions_of_none present]
      rfl

instance (options : Option Place) :
    Settles (Call.finiOptions options) Fault.status (finiOptions options) where
  settles state := by
    cases options with
    | none => rfl
    | some place =>
      unfold Call.finiOptions finiOptions
      rw [required_bind, get_bind]
      cases present : state.objects.options place with
      | some found =>
        rw [findOptions_eq_ok.mpr ⟨rfl, present⟩]
        exact (state.settle_commit _ _).symm
      | none =>
        rw [findOptions_of_none present]
        rfl

instance (count : Int) (vector : Option (List (Option (List UInt8))))
    (options context : Option Place) :
    Settles (Call.initContext count vector options context) Fault.status
      (initContext count vector options context) where
  settles state := by
    unfold Call.initContext initContext checkVector
    by_cases negative : count < 0
    · simp only [negative, ↓reduceIte]
      rfl
    by_cases missing : 0 < count ∧ vector.isNone
    · simp only [negative, missing, and_self, ↓reduceIte]
      rfl
    simp only [negative, missing, ↓reduceIte]
    refine (required_checks "options" options Fault.status).bind ?_
    intro owner given
    refine (required_checks "context" context Fault.status).bind ?_
    intro place _
    rw [get_bind, required_eq_ok.mp given]
    cases present : state.objects.options owner with
    | none =>
      rw [findOptions_of_none present]
      rfl
    | some requested =>
      rw [findOptions_eq_ok.mpr ⟨rfl, present⟩]
      simp only [get_bind]
      cases absent : state.objects.contexts place with
      | some found => rfl
      | none =>
        refine (decodeItems_checks 0 _).bind ?_
        intro tokens _
        unfold readContext
        rw [bind_assoc]
        refine (parseArguments_checks tokens).bind ?_
        intro arguments _
        rw [bind_assoc]
        refine (resolveDomain_checks requested.domain).bind ?_
        intro domain _
        exact (state.settle_reports _ _ _ _).symm

instance (context : Option Place) :
    Settles (Call.shutdownContext context) Fault.status (shutdownContext context) where
  settles state := by
    refine (findContext_checks context Fault.status rfl).bind ?_
    rintro ⟨place, found⟩ looked
    have present := (findContext_eq_ok.mp looked).2
    dsimp only
    cases shut : found.instance? with
    | none =>
      -- The id that is taken away was gone before, so what is written is what was there.
      have kept : state.objects.setContext place
          ((state.objects.contexts place).map Context.shutDown) = state.objects := by
        rw [present, Option.map_some, Context.shutDown_of_none shut, ← present]
        exact Objects.setContext_self state.objects place
      rw [Call.store_bind, kept]
      rfl
    | some id =>
      rw [Call.store_bind, present]
      exact (state.settle_report _ _ _).symm

instance (context : Option Place) (output : Bool) :
    Settles (Call.contextDomain context output) Fault.status (contextDomain context output) where
  settles state := by
    refine (required_checks "context" context Fault.status).bind ?_
    intro place _
    refine (requireOutput_checks "domain_id" output).bind ?_
    intro _ _
    rw [get_bind]
    cases state.objects.contexts place with
    | none => rfl
    | some found =>
      cases valid : found.isValid with
      | false =>
        simp only [Option.filter_some, valid, Bool.false_eq_true, ↓reduceIte]
        rfl
      | true =>
        simp only [Option.filter_some, valid, ↓reduceIte]
        exact (state.settle_answer _ _).symm

instance (context : Option Place) (output : Bool) :
    Settles (Call.unparsedCount context output) Fault.status (unparsedCount context output) where
  settles state := by
    refine (required_checks "context" context Fault.status).bind ?_
    intro place given
    refine (requireOutput_checks "count" output).bind ?_
    intro _ _
    rw [get_bind, required_eq_ok.mp given]
    cases present : state.objects.contexts place with
    | none =>
      rw [findContext_of_none present]
      rfl
    | some found =>
      rw [findContext_eq_ok.mpr ⟨rfl, present⟩]
      exact (state.settle_answer _ _).symm

instance (context : Option Place) (index : Nat) :
    Settles (Call.unparsedArgument context index) (fun _ => .error)
      (unparsedArgument context index) where
  settles state := by
    refine (findContext_checks context (fun _ => .error) rfl).bind ?_
    rintro ⟨place, found⟩ _
    dsimp only
    cases found.arguments.unparsed[index]? with
    | none => rfl
    | some argument => exact (state.settle_answer _ _).symm

instance (context : Option Place) :
    Settles (Call.finiContext context) Fault.status (finiContext context) where
  settles state := by
    refine (findContext_checks context Fault.status rfl).bind ?_
    rintro ⟨place, found⟩ _
    dsimp only
    unfold Context.isValid releaseRecords
    cases found.instance? with
    | some id => rfl
    | none =>
      cases found.arguments.remaps.isEmpty with
      | false => exact (state.settle_report _ _ _).symm
      | true =>
        cases found.arguments.params.isEmpty with
        | false => exact (state.settle_report _ _ _).symm
        | true => exact (state.settle_commit _ _).symm

end Verdict

end RosClient
