import RosClient.Proofs.Context.Instant

namespace RosClient

/-- Whether an instant initialises a context. -/
def Instant.initialises (instant : Instant) : Bool :=
  instant.contextEvent.any fun happened => happened.2 = .init

/-- The event that an instant is for a context, if it is one. -/
def Instant.eventAt (place : Place) (instant : Instant) : Option ContextEvent :=
  (instant.contextEvent.filter fun happened => happened.1 = place).map Prod.snd

/-- The latest initialisation of a context in a history, with all that comes before, if the context
has neither been shut down nor been released since. -/
def IsValidSince (place : Place) (history before : List Instant) (instant : Instant) : Prop :=
  ∃ between, history = before ++ instant :: between ∧ instant.eventAt place = some .init ∧
    ∀ later ∈ between, later.eventAt place ≠ some .shutdown ∧ later.eventAt place ≠ some .release

/-- Each of some events is next behind the one before it, and the first behind a given one. -/
def ContextEvent.TakeTurns : ContextEvent → List ContextEvent → Prop
  | _, [] => True
  | last, event :: rest => event = last.next ∧ TakeTurns event rest

namespace Session

/-- A session as it starts in a process where an id is next. -/
def startFrom (counter depth : Nat) (environment : Environment) (readings : Nat → RealTime) :
    Session :=
  { depth, state := { environment, readings, objects := { nextId := counter } } }

/-- The instance id of a context, zero if it is not valid. -/
def reportedId (session : Session) (place : Place) : Nat :=
  ((session.contextIn place).map Context.reportedId).getD 0

/-- What is told of a context when it is asked for its id and whether it is valid. -/
def TellsOf (session : Session) : Place → Prop
  | .caller slot =>
    ((Operation.context (some slot) .instanceId).perform session.state).answer =
        .value (.count (session.reportedId (.caller slot))) ∧
      ((Operation.context (some slot) .isValid).perform session.state).answer =
        .value (.flag (session.reportedId (.caller slot) ≠ 0))
  | .handle slot =>
    ((ContextStep.use .instanceId).perform slot session).1 =
        .outcome (.value (.count (session.reportedId (.handle slot)))) ∧
      ((ContextStep.use .isValid).perform slot session).1 =
        .outcome (.value (.flag (session.reportedId (.handle slot) ≠ 0)))
  | .transient => True

/-- The events of a context in a slot of the caller. -/
def lifeOf (slot : Slot) (history : List Instant) : List ContextEvent :=
  history.filterMap (Instant.eventAt (.caller slot))

end Session

open Session

section

variable {place other : Place} {history before : List Instant} {instant last : Instant}
  {event : ContextEvent}

theorem takeTurns_concat {last : ContextEvent} {events : List ContextEvent}
    (turns : last.TakeTurns events) (follows : event = (events.getLastD last).next) :
    last.TakeTurns (events ++ [event]) := by
  induction events generalizing last with
  | nil => exact ⟨follows, trivial⟩
  | cons head rest ih =>
    rw [List.getLastD_cons] at follows
    exact ⟨turns.1, ih turns.2 follows⟩

theorem Instant.eventAt_of_none (quiet : instant.contextEvent = none) :
    instant.eventAt place = none := by
  rw [eventAt, quiet]
  rfl

theorem Instant.eventAt_self (happened : instant.contextEvent = some (place, event)) :
    instant.eventAt place = some event := by
  simp [eventAt, happened]

theorem Instant.eventAt_of_ne (happened : instant.contextEvent = some (other, event))
    (apart : place ≠ other) : instant.eventAt place = none := by
  simp [eventAt, happened, apart.symm]

theorem Instant.eventAt_eq_some :
    instant.eventAt place = some event ↔ instant.contextEvent = some (place, event) := by
  simp [eventAt, Option.map_eq_some_iff, Option.filter_eq_some_iff]

theorem isValidSince_concat :
    IsValidSince place (history ++ [last]) before instant ↔
      (history = before ∧ last = instant ∧ instant.eventAt place = some .init) ∨
      (IsValidSince place history before instant ∧ last.eventAt place ≠ some .shutdown ∧
        last.eventAt place ≠ some .release) := by
  constructor
  · rintro ⟨between, split, initialised, spared⟩
    rcases List.eq_nil_or_concat between with rfl | ⟨front, final, rfl⟩
    · obtain ⟨rfl, same⟩ := List.append_inj' split rfl
      exact Or.inl ⟨rfl, List.singleton_inj.mp same, initialised⟩
    · rw [List.concat_eq_append] at split spared
      rw [← List.cons_append, ← List.append_assoc] at split
      obtain ⟨rfl, same⟩ := List.append_inj' split rfl
      cases List.singleton_inj.mp same
      refine Or.inr ⟨⟨front, rfl, initialised, ?_⟩, spared last List.mem_concat_self⟩
      exact fun later member => spared later (List.mem_append_left _ member)
  · rintro (⟨rfl, rfl, initialised⟩ | ⟨⟨between, rfl, initialised, spared⟩, lasting⟩)
    · exact ⟨[], rfl, initialised, fun _ absurd => nomatch absurd⟩
    · refine ⟨between ++ [last], by simp, initialised, ?_⟩
      intro later member
      rcases List.mem_append.mp member with earlier | final
      · exact spared later earlier
      · rw [List.mem_singleton.mp final]
        exact lasting

theorem isValidSince_of_quiet (quiet : last.eventAt place = none) :
    IsValidSince place (history ++ [last]) before instant ↔
      IsValidSince place history before instant := by
  rw [isValidSince_concat, quiet]
  constructor
  · rintro (⟨_, rfl, initialised⟩ | ⟨since, _⟩)
    · cases quiet.symm.trans initialised
    · exact since
  · exact fun since => Or.inr ⟨since, nofun, nofun⟩

theorem not_isValidSince_of_ended
    (ended : last.eventAt place = some .shutdown ∨ last.eventAt place = some .release) :
    ¬ IsValidSince place (history ++ [last]) before instant := by
  rw [isValidSince_concat]
  rintro (⟨_, rfl, initialised⟩ | ⟨_, lasting⟩)
  · rcases ended with shut | released
    · cases shut.symm.trans initialised
    · cases released.symm.trans initialised
  · exact ended.elim lasting.1 lasting.2

theorem Instant.initialises_of_eventAt (initialised : instant.eventAt place = some .init) :
    instant.initialises = true := by
  rw [initialises, eventAt_eq_some.mp initialised]
  rfl

theorem countP_initialises_lt (initialises : instant.initialises = true)
    (before between : List Instant) :
    before.countP Instant.initialises <
      (before ++ instant :: between).countP Instant.initialises := by
  rw [List.countP_append, List.countP_cons_of_pos initialises]
  omega

/-- The same id comes from the same initialisation. -/
theorem initialisation_unique {before' between between' : List Instant} {instant' : Instant}
    (split : before ++ instant :: between = before' ++ instant' :: between')
    (first : instant.initialises = true) (second : instant'.initialises = true)
    (same : before.countP Instant.initialises = before'.countP Instant.initialises) :
    instant = instant' ∧ between = between' := by
  rcases List.append_eq_append_iff.mp split with ⟨gap, rfl, behind⟩ | ⟨gap, rfl, behind⟩
  · cases gap with
    | nil => exact List.cons.inj behind
    | cons head rest =>
      obtain ⟨rfl, _⟩ := List.cons.inj behind
      exact absurd same (Nat.ne_of_lt (countP_initialises_lt first before rest))
  · cases gap with
    | nil =>
      obtain ⟨rfl, rfl⟩ := List.cons.inj behind
      exact ⟨rfl, rfl⟩
    | cons head rest =>
      obtain ⟨rfl, _⟩ := List.cons.inj behind
      exact absurd same (Nat.ne_of_gt (countP_initialises_lt second before' rest))

theorem contextIn_after (instant : Instant) (own : instant.session.HasOwnContexts)
    (place : Place) :
    (instant.eventAt place).elim
      (instant.after.contextIn place = instant.session.contextIn place) fun event =>
      event.Makes instant.session.state.objects.nextId (instant.session.contextIn place)
        (instant.after.contextIn place) := by
  have change := instant.contextChange own
  cases happened : instant.contextEvent with
  | none =>
    rw [happened] at change
    rw [Instant.eventAt_of_none happened]
    cases change with
    | still same => exact congrFun (congrArg ContextView.context same) place
  | some named =>
    obtain ⟨target, event⟩ := named
    rw [happened] at change
    cases change with
    | happens made others _ =>
      by_cases here : place = target
      · subst here
        rw [Instant.eventAt_self happened]
        exact made
      · rw [Instant.eventAt_of_ne happened here]
        exact others place here

theorem nextId_after (instant : Instant) (own : instant.session.HasOwnContexts) :
    instant.after.state.objects.nextId =
      instant.session.state.objects.nextId + [instant].countP Instant.initialises := by
  have change := instant.contextChange own
  unfold Instant.initialises
  cases happened : instant.contextEvent with
  | none =>
    rw [happened] at change
    cases change with
    | still same =>
      simp only [List.countP_singleton, happened]
      exact congrArg ContextView.nextId same
  | some named =>
    obtain ⟨target, event⟩ := named
    rw [happened] at change
    cases change with
    | happens _ _ counted =>
      simp only [List.countP_singleton, happened]
      cases event <;> exact counted

theorem instance?_after (instant : Instant) (own : instant.session.HasOwnContexts)
    (place : Place) :
    (instant.after.contextIn place).bind Context.instance? =
      match instant.eventAt place with
      | none => (instant.session.contextIn place).bind Context.instance?
      | some .init => some instant.session.state.objects.nextId
      | some .shutdown | some .release => none := by
  have made := contextIn_after instant own place
  cases happened : instant.eventAt place with
  | none =>
    rw [happened] at made
    exact congrArg (·.bind Context.instance?) made
  | some event =>
    rw [happened] at made
    cases event with
    | init =>
      obtain ⟨_, domain, arguments, stored⟩ := made
      simp only [stored]
      rfl
    | shutdown =>
      have shut : instant.after.contextIn place =
          (instant.session.contextIn place).map Context.shutDown := made
      simp only [shut]
      cases instant.session.contextIn place <;> rfl
    | release =>
      have gone : instant.after.contextIn place = none := made
      simp only [gone]
      rfl

/-- What goes through for a context in a slot of the caller is next in its life. -/
theorem Instant.eventAt_follows {slot : Slot}
    (happened : instant.eventAt (.caller slot) = some event) :
    event = (ContextEvent.behind (instant.session.contextIn (.caller slot))).next := by
  rw [eventAt_eq_some] at happened
  obtain ⟨session, deed⟩ := instant
  unfold contextEvent at happened
  cases deed with
  | operation asked => exact Moment.contextEvent_follows happened
  | context target step =>
    obtain ⟨_, _, named⟩ := Option.map_eq_some_iff.mp happened
    cases named
  | clock | timer | source | startLogging => cases happened

end

/-- What a session has of the lives of contexts. -/
structure Session.HasLives (counter : Nat) (history : List Instant) (session : Session) : Prop where
  own : session.HasOwnContexts
  nextId : session.state.objects.nextId = counter + history.countP Instant.initialises
  valid : ∀ place id, (session.contextIn place).bind Context.instance? = some id ↔
    ∃ before instant, IsValidSince place history before instant ∧
      id = counter + before.countP Instant.initialises
  cyclic : ∀ slot, ContextEvent.release.TakeTurns (lifeOf slot history)
  behind : ∀ slot, ContextEvent.behind (session.contextIn (.caller slot)) =
    (lifeOf slot history).getLastD .release

section

variable {counter : Nat} {history : List Instant} {session : Session}

theorem startFrom_hasLives (counter depth : Nat) (environment : Environment)
    (readings : Nat → RealTime) :
    (startFrom counter depth environment readings).HasLives counter [] where
  own _ _ := nofun
  nextId := rfl
  valid place id := by
    constructor
    · intro there
      cases place <;> cases there
    · rintro ⟨before, instant, ⟨between, split, _⟩, _⟩
      simp at split
  cyclic _ := trivial
  behind _ := rfl

theorem lifeOf_concat (slot : Slot) (history : List Instant) (instant : Instant) :
    lifeOf slot (history ++ [instant]) =
      lifeOf slot history ++ (instant.eventAt (.caller slot)).toList := by
  unfold lifeOf
  rw [List.filterMap_append]
  cases happened : instant.eventAt (.caller slot) <;> simp [happened]

theorem valid_deed (lives : session.HasLives counter history) (deed : Step) (place : Place)
    (id : Nat) :
    ((deed.performAlone session).contextIn place).bind Context.instance? = some id ↔
      ∃ before instant, IsValidSince place (history ++ [⟨session, deed⟩]) before instant ∧
        id = counter + before.countP Instant.initialises := by
  have left := instance?_after ⟨session, deed⟩ lives.own place
  change ((deed.performAlone session).contextIn place).bind Context.instance? = _ at left
  have made := contextIn_after ⟨session, deed⟩ lives.own place
  rw [left]
  cases happened : Instant.eventAt place ⟨session, deed⟩ with
  | none =>
    simp only [isValidSince_of_quiet happened]
    exact lives.valid place id
  | some event =>
    rw [happened] at made
    cases event with
    | init =>
      simp only [isValidSince_concat]
      constructor
      · intro there
        refine ⟨history, _, Or.inl ⟨rfl, rfl, happened⟩, ?_⟩
        rw [← lives.nextId]
        exact (Option.some.inj there).symm
      · rintro ⟨before, instant, ⟨rfl, rfl, _⟩ | ⟨since, _⟩, rfl⟩
        · exact congrArg some lives.nextId
        · -- A context that is initialised was not there, so no initialisation lasted.
          have there := (lives.valid place _).mpr ⟨before, instant, since, rfl⟩
          rw [made.1] at there
          cases there
    | shutdown =>
      simp only [not_isValidSince_of_ended (Or.inl happened), false_and, exists_false, reduceCtorEq]
    | release =>
      simp only [not_isValidSince_of_ended (Or.inr happened), false_and, exists_false, reduceCtorEq]

theorem cyclic_deed (lives : session.HasLives counter history) (deed : Step) (slot : Slot) :
    ContextEvent.release.TakeTurns (lifeOf slot (history ++ [⟨session, deed⟩])) ∧
      ContextEvent.behind ((deed.performAlone session).contextIn (.caller slot)) =
        (lifeOf slot (history ++ [⟨session, deed⟩])).getLastD .release := by
  have made := contextIn_after ⟨session, deed⟩ lives.own (.caller slot)
  rw [lifeOf_concat]
  cases happened : Instant.eventAt (.caller slot) ⟨session, deed⟩ with
  | none =>
    rw [happened] at made
    rw [Option.toList_none, List.append_nil]
    exact ⟨lives.cyclic slot, (congrArg ContextEvent.behind made).trans (lives.behind slot)⟩
  | some event =>
    have follows := Instant.eventAt_follows happened
    rw [happened] at made
    rw [Option.toList_some, List.getLastD_concat]
    refine ⟨takeTurns_concat (lives.cyclic slot) ?_, made.behind follows⟩
    rw [← lives.behind slot]
    exact follows

/-- Every deed keeps the lives of contexts. -/
theorem Session.HasLives.deed (lives : session.HasLives counter history) (deed : Step) :
    (deed.performAlone session).HasLives counter (history ++ [⟨session, deed⟩]) where
  own := deed.performAlone_ownContexts lives.own
  nextId := by
    have counted := nextId_after ⟨session, deed⟩ lives.own
    rw [List.countP_append, ← Nat.add_assoc, ← lives.nextId]
    exact counted
  valid := valid_deed lives deed
  cyclic slot := (cyclic_deed lives deed slot).1
  behind slot := (cyclic_deed lives deed slot).2

theorem startFrom_lives (counter depth : Nat) (environment : Environment)
    (readings : Nat → RealTime) (deeds : List Step) :
    ((startFrom counter depth environment readings).afterDeeds deeds).HasLives counter
      ((startFrom counter depth environment readings).instants deeds) :=
  instants_induction (startFrom_hasLives counter depth environment readings)
    (fun _ _ deed lives => lives.deed deed) deeds

theorem reportedId_eq (session : Session) (place : Place) :
    session.reportedId place =
      ((session.contextIn place).bind Context.instance?).getD 0 := by
  unfold reportedId
  cases session.contextIn place <;> rfl

namespace Session.HasLives

variable {place other : Place} {before : List Instant} {instant : Instant}

theorem reportedId_of_since (lives : session.HasLives counter history)
    (since : IsValidSince place history before instant) :
    session.reportedId place = counter + before.countP Instant.initialises := by
  rw [reportedId_eq, (lives.valid place _).mpr ⟨before, instant, since, rfl⟩]
  rfl

theorem since_of_reportedId (lives : session.HasLives counter history)
    (reports : session.reportedId place ≠ 0) :
    ∃ before instant, IsValidSince place history before instant := by
  rw [reportedId_eq] at reports
  cases held : (session.contextIn place).bind Context.instance? with
  | none =>
    rw [held] at reports
    exact absurd rfl reports
  | some id =>
    obtain ⟨before, instant, since, _⟩ := (lives.valid place id).mp held
    exact ⟨before, instant, since⟩

theorem reportedId_ne_zero_iff (lives : session.HasLives counter history)
    (positive : 0 < counter) :
    session.reportedId place ≠ 0 ↔ ∃ before instant, IsValidSince place history before instant := by
  refine ⟨lives.since_of_reportedId, ?_⟩
  rintro ⟨before, instant, since⟩
  rw [lives.reportedId_of_since since]
  omega

theorem any_isValid (lives : session.HasLives counter history) (positive : 0 < counter)
    (place : Place) :
    (session.contextIn place).any Context.isValid = decide (session.reportedId place ≠ 0) := by
  unfold reportedId
  cases present : session.contextIn place with
  | none => rfl
  | some context =>
    cases alive : context.instance? with
    | none => simp [Context.isValid, Context.reportedId, alive]
    | some id =>
      have held : (session.contextIn place).bind Context.instance? = some id := by
        rw [present]
        exact alive
      obtain ⟨before, instant, _, rfl⟩ := (lives.valid place id).mp held
      have apart : counter + before.countP Instant.initialises ≠ 0 := by omega
      simp only [Option.any_some, Context.isValid, alive, Option.isSome_some, Option.map_some,
        Context.reportedId, Option.getD_some]
      exact (decide_eq_true apart).symm

theorem tellsOf (lives : session.HasLives counter history) (positive : 0 < counter)
    (place : Place) : session.TellsOf place := by
  have valid := lives.any_isValid positive place
  cases place with
  | caller slot => exact ⟨rfl, congrArg (Answer.value ∘ Value.flag) valid⟩
  | transient => trivial
  | handle slot =>
    have state := state_context session slot
    have held := context_fst session slot
    unfold TellsOf
    simp only [ContextStep.perform, ContextRequest.perform, observe, state, held]
    exact ⟨rfl, congrArg (StepAnswer.outcome ∘ Outcome.value ∘ Value.flag) valid⟩

end Session.HasLives

theorem quiet_since {place : Place} {before between : List Instant} {instant : Instant}
    (lives : session.HasLives counter (before ++ instant :: between))
    (initialised : instant.eventAt place = some .init)
    (spared : ∀ later ∈ between,
      later.eventAt place ≠ some .shutdown ∧ later.eventAt place ≠ some .release) :
    ∀ later ∈ between, later.eventAt place = none := by
  intro later member
  cases happened : later.eventAt place with
  | none => rfl
  | some event =>
    cases event with
    | shutdown => exact absurd happened (spared later member).1
    | release => exact absurd happened (spared later member).2
    | init =>
      -- A second initialisation would have taken another id.
      obtain ⟨front, rest, rfl⟩ := List.append_of_mem member
      have first := lives.reportedId_of_since ⟨_, rfl, initialised, spared⟩
      have sinceThen : IsValidSince place (before ++ instant :: (front ++ later :: rest))
          (before ++ instant :: front) later := by
        refine ⟨rest, by simp only [List.append_assoc, List.cons_append], happened, ?_⟩
        intro final inside
        exact spared final (List.mem_append_right _ (List.mem_cons_of_mem _ inside))
      have second := lives.reportedId_of_since sinceThen
      have greater := countP_initialises_lt (instant.initialises_of_eventAt initialised) before
        front
      omega

theorem same_of_reportedId {place other : Place} (middle : List Step)
    (lives : session.HasLives counter history)
    (livesThen : (session.afterDeeds middle).HasLives counter (history ++ session.instants middle))
    (reports : session.reportedId place ≠ 0)
    (same : (session.afterDeeds middle).reportedId other = session.reportedId place) :
    other = place ∧ ∀ instant ∈ session.instants middle, instant.eventAt place = none := by
  obtain ⟨before, instant, since⟩ := lives.since_of_reportedId reports
  have id := lives.reportedId_of_since since
  have reportsThen : (session.afterDeeds middle).reportedId other ≠ 0 := by
    rw [same]
    exact reports
  obtain ⟨before', instant', since'⟩ := livesThen.since_of_reportedId reportsThen
  have idThen := livesThen.reportedId_of_since since'
  obtain ⟨between, rfl, initialised, _⟩ := since
  obtain ⟨between', split, initialised', spared⟩ := since'
  rw [List.append_assoc, List.cons_append] at split livesThen
  obtain ⟨rfl, rfl⟩ := initialisation_unique split (instant.initialises_of_eventAt initialised)
    (instant'.initialises_of_eventAt initialised') (by omega)
  have named := (Instant.eventAt_eq_some.mp initialised').symm.trans
    (Instant.eventAt_eq_some.mp initialised)
  cases named
  refine ⟨rfl, fun later member => ?_⟩
  exact quiet_since livesThen initialised spared later (List.mem_append_right _ member)

end

/-- In every session the next instance id counts the initialisations that went through, whatever
failed in between. At every instant a context reports the id that its latest initialisation took if
it has neither been shut down nor been released since, and zero otherwise; it is valid exactly if it
reports an id. What goes through for a context in a slot of the caller goes round in the cycle of
its life, and what is out of turn is refused and leaves all objects. And the same id at two times is
that of one context, to which nothing happened between them. The counter is a natural number, so
that a session which takes so many ids that a counter of 64 bits wraps around is left out. -/
theorem contexts_live_under_own_ids (counter depth : Nat) (positive : 0 < counter)
    (environment : Environment) (readings : Nat → RealTime) (steps : List Step) :
    let start := Session.startFrom counter depth environment readings
    (∀ early late, start.deeds steps = early ++ late →
      let session := start.afterDeeds early
      let history := start.instants early
      session.state.objects.nextId = counter + history.countP Instant.initialises ∧
      (∀ place, session.TellsOf place ∧
        (session.reportedId place ≠ 0 ↔
          ∃ before instant, IsValidSince place history before instant) ∧
        ∀ before instant, IsValidSince place history before instant →
          session.reportedId place = counter + before.countP Instant.initialises) ∧
      ∀ slot,
        ContextEvent.release.TakeTurns (lifeOf slot history) ∧
        session.state.Attempts slot ((lifeOf slot history).getLastD .release)) ∧
    ∀ early middle late, start.deeds steps = early ++ (middle ++ late) →
      let session := start.afterDeeds early
      ∀ place other, session.reportedId place ≠ 0 →
        (session.afterDeeds middle).reportedId other = session.reportedId place →
          other = place ∧ ∀ instant ∈ session.instants middle, instant.eventAt place = none := by
  intro start
  have lives (deeds : List Step) := startFrom_lives counter depth environment readings deeds
  refine ⟨?_, ?_⟩
  · intro early late _ session history
    refine ⟨(lives early).nextId, ?_, ?_⟩
    · intro place
      exact ⟨(lives early).tellsOf positive place, (lives early).reportedId_ne_zero_iff positive,
        fun _ _ => (lives early).reportedId_of_since⟩
    · intro slot
      refine ⟨(lives early).cyclic slot, ?_⟩
      rw [← (lives early).behind slot]
      exact attempts_on_context session.state slot
  · intro early middle late _ session place other reports same
    have livesThen := lives (early ++ middle)
    rw [afterDeeds_append, instants_append] at livesThen
    exact same_of_reportedId middle (lives early) livesThen reports same

/-- A context in slot 1 of the caller and one behind the handle in slot 2. -/
def stepsOfTwoContexts : List Step :=
  [.operation (.options (some 4) .init), .operation (.initContext 0 none (some 4) (some 1)),
    .context 2 (.new [] none)]

/-- Two attempts out of turn; then the context in slot 1 is released and initialised again. -/
def stepsOfRefill : List Step :=
  [.operation (.initContext 0 none (some 4) (some 1)), .operation (.context (some 1) .fini),
    .operation (.context (some 1) .shutdown), .operation (.context (some 1) .fini),
    .operation (.initContext 0 none (some 4) (some 1))]

def sessionAtSeven : Session := .startFrom 7 3 .empty fun _ => ⟨.ok .zero, .ok .zero⟩

/-- The first ids are 7 and 8; the context in the slot that is used again has the id 9, and the id 7
is never reported again. -/
theorem contexts_live_under_own_ids_refilled :
    let session := sessionAtSeven.afterDeeds stepsOfTwoContexts
    let later := session.afterDeeds stepsOfRefill
    session.reportedId (.caller 1) = 7 ∧ session.reportedId (.handle 2) = 8 ∧
      later.reportedId (.caller 1) = 9 ∧ later.reportedId (.handle 2) = 8 ∧
      later.state.objects.nextId = 7 + 3 ∧ later.state.RefusesInit 1 ∧
      ∀ place, later.reportedId place ≠ 7 := by
  intro session later
  have lives := contexts_live_under_own_ids 7 3 (by decide) .empty
    (fun _ => ⟨.ok .zero, .ok .zero⟩) (stepsOfTwoContexts ++ stepsOfRefill)
  have first : session.reportedId (.caller 1) = 7 := by rfl
  obtain ⟨counted, _, attempted⟩ := lives.1 (stepsOfTwoContexts ++ stepsOfRefill) [] (by rfl)
  refine ⟨first, by rfl, by rfl, by rfl, counted.trans (by rfl), ?_, ?_⟩
  · have attempts := (attempted 1).2
    have life : (lifeOf 1 (sessionAtSeven.instants
        (stepsOfTwoContexts ++ stepsOfRefill))).getLastD .release = .init := by rfl
    exact (life ▸ attempts : State.Attempts _ 1 .init).1
  · intro place reports
    have reported : session.reportedId (.caller 1) ≠ 0 := by
      rw [first]
      decide
    have spared := (lives.2 stepsOfTwoContexts stepsOfRefill [] (by rfl) (.caller 1) place
      reported (reports.trans first.symm)).2
    have quiet : ((session.instants stepsOfRefill).all fun instant =>
        (instant.eventAt (.caller 1)).isNone) = true :=
      List.all_eq_true.mpr fun instant member => Option.isNone_iff_eq_none.mpr
        (spared instant member)
    have disturbed : ((session.instants stepsOfRefill).all fun instant =>
        (instant.eventAt (.caller 1)).isNone) = false := by rfl
    exact Bool.false_ne_true (disturbed.symm.trans quiet)

end RosClient
