import RosClient.Proofs.Session.Nonnegative

namespace RosClient

/-- Whether a request writes the override of its clock. -/
def ClockRequest.writes : ClockRequest → Bool
  | rawSet _ | switchOverride _ | set _ => true
  | rawNow | isOverrideEnabled | now | type | handle | roundTrip => false

namespace Session

/-- No time source has the clock in a slot. -/
def IsFree (session : Session) (slot : Slot) : Prop :=
  ∀ target source, session.sources.get? target = some source → source.hasClock slot = false

/-- A step leaves the override of an attached clock to its source, and attaches no clock of another
source. -/
def Permits (session : Session) : Step → Prop
  | .clock slot (.use request) => request.writes = true → session.IsFree slot
  | .source target (.use (.attach slot)) =>
    ∀ other source, other ≠ target → session.sources.get? other = some source →
      source.hasClock slot = false
  | _ => True

/-- Every one of some steps is permitted when it is taken. -/
def PermitsAll (session : Session) : List Step → Prop
  | [] => True
  | step :: rest => session.Permits step ∧ (step.perform session).2.PermitsAll rest

/-- Every attached clock has one source and follows it. -/
structure IsInStep (session : Session) : Prop where
  alone : ∀ slot target other source another, session.sources.get? target = some source →
    session.sources.get? other = some another → source.hasClock slot = true →
      another.hasClock slot = true → target = other
  ofRosTime : ∀ target source, session.sources.get? target = some source →
    source.last.type = .rosTime
  follows : ∀ target source slot clock, session.sources.get? target = some source →
    source.hasClock slot = true → session.clockIn slot = some clock →
      clock = .ros ⟨source.active, source.last.nanoseconds⟩

theorem start_isInStep (depth : Nat) (environment : Environment) (readings : Nat → RealTime) :
    (start depth environment readings).IsInStep where
  alone _ _ _ _ _ := nofun
  ofRosTime _ _ := nofun
  follows _ _ _ _ := nofun

end Session

open Session

section

variable {session : Session} {slot target : Slot} {source : TimeSource}

theorem hasClock_of_next {request : SourceRequest}
    (has : (request.next session source).hasClock slot = true) :
    source.hasClock slot = true ∨
      request = .attach slot ∧ (session.heldClock slot).owned = some .rosTime := by
  obtain ⟨entry, member, same⟩ := List.any_eq_true.mp has
  have same : entry.1 = slot := by simpa using same
  subst same
  cases request with
  | isActive | clockCount | last | setActive => exact Or.inl (source.hasClock_of_mem member)
  | update time =>
    simp only [SourceRequest.next] at member
    split at member <;> exact Or.inl (source.hasClock_of_mem member)
  | attach clock =>
    simp only [SourceRequest.next] at member
    split at member
    · next owned found =>
      split at member
      · next ros =>
        rcases List.mem_append.mp member with inside | last
        · exact Or.inl (source.hasClock_of_mem inside)
        · cases List.mem_singleton.mp last
          rw [ownedClock?_eq, owned?_eq_some] at found
          exact Or.inr ⟨rfl, by rw [found, ros]⟩
      · exact Or.inl (source.hasClock_of_mem member)
    · exact Or.inl (source.hasClock_of_mem member)
  | detach clock =>
    simp only [SourceRequest.next] at member
    split at member
    · exact Or.inl (source.hasClock_of_mem (List.mem_filter.mp member).1)
    · exact Or.inl (source.hasClock_of_mem member)

theorem type_last_next (request : SourceRequest) (typed : source.last.type = .rosTime) :
    (request.next session source).last.type = .rosTime := by
  cases request with
  | isActive | clockCount | last | setActive => exact typed
  | update time =>
    simp only [SourceRequest.next]
    split
    · rfl
    · exact typed
  | attach clock =>
    simp only [SourceRequest.next]
    split
    · split <;> exact typed
    · exact typed
  | detach clock =>
    simp only [SourceRequest.next]
    split <;> exact typed

/-- What a source has to hand on. -/
def TimeSource.override (source : TimeSource) : Override :=
  ⟨source.active, source.last.nanoseconds⟩

theorem override_next_attach (session : Session) (source : TimeSource) (clock : Slot) :
    ((SourceRequest.attach clock).next session source).override = source.override := by
  simp only [SourceRequest.next]
  split
  · split <;> rfl
  · rfl

theorem overrideChange_attached (request : SourceRequest) (has : source.hasClock slot = true) :
    request.overrideChange session source slot source.override =
      (request.next session source).override := by
  cases request with
  | isActive | clockCount | last => rfl
  | setActive active =>
    simp only [SourceRequest.overrideChange, SourceRequest.next, has, Bool.true_and]
    by_cases same : source.active = active
    · subst same
      simp only [bne_self_eq_false, Bool.false_eq_true, ↓reduceIte]
      rfl
    · have changed : (source.active != active) = true := by simpa using same
      rw [changed]
      rfl
  | update time =>
    simp only [SourceRequest.overrideChange, SourceRequest.next, has, ↓reduceIte]
    cases time.read <;> rfl
  | attach clock =>
    rw [override_next_attach]
    simp only [SourceRequest.overrideChange]
    split <;> rfl
  | detach clock =>
    simp only [SourceRequest.overrideChange, SourceRequest.next]
    split <;> rfl

theorem overrideChange_foreign {request : SourceRequest} (foreign : source.hasClock slot = false)
    (given : request ≠ .attach slot) : request.overrideChange session source slot = id := by
  cases request with
  | isActive | clockCount | last | detach => rfl
  | setActive active =>
    simp only [SourceRequest.overrideChange, foreign, Bool.false_and, Bool.false_eq_true,
      ↓reduceIte]
  | update time =>
    simp only [SourceRequest.overrideChange, foreign, Bool.false_eq_true, ↓reduceIte]
    cases time.read <;> rfl
  | attach clock =>
    have apart : clock ≠ slot := fun same => given (congrArg _ same)
    simp only [SourceRequest.overrideChange, apart, false_and, ↓reduceIte]

/-- What the source of an attached clock was before a step. -/
inductive SourceFate (session : Session) (step : Step) (target : Slot) (after : TimeSource) :
    Prop where
  | kept (found : session.sources.get? target = some after)
    (unasked : ∀ request, step ≠ .source target (.use request))
  | new (active : Bool) (made : after = .new active)
  | asked (before : TimeSource) (request : SourceRequest)
    (asks : step = .source target (.use request))
    (found : session.sources.get? target = some before)
    (next : after = request.next session before)

theorem Step.sourceFate (sound : session.HasSoundClocks) (step : Step)
    (found : (step.perform session).2.sources.get? target = some source) :
    SourceFate session step target source := by
  rcases step.source_of_perform sound found with before | ⟨active, made⟩ |
    ⟨before, request, asks, there, next⟩
  · by_cases asked : ∃ request, step = .source target (.use request)
    · obtain ⟨request, rfl⟩ := asked
      have after := request.get?_perform sound before
      simp only [Step.perform, SourceStep.perform, before] at found
      exact .asked source request rfl before (Option.some.inj (found.symm.trans after))
    · exact .kept before fun request asks => asked ⟨request, asks⟩
  · exact .new active made
  · exact .asked before request asks there next

theorem hasClock_of_perform (sound : session.HasSoundClocks) {step : Step}
    (found : (step.perform session).2.sources.get? target = some source)
    (has : source.hasClock slot = true) :
    (∃ before, session.sources.get? target = some before ∧ before.hasClock slot = true) ∨
      step = .source target (.use (.attach slot)) ∧
        (session.heldClock slot).owned = some .rosTime := by
  cases step.sourceFate sound found with
  | kept before => exact Or.inl ⟨source, before, has⟩
  | new active made =>
    subst made
    cases has
  | asked before request asks there next =>
    subst next
    rcases hasClock_of_next has with had | ⟨rfl, owned⟩
    · exact Or.inl ⟨before, there, had⟩
    · exact Or.inr ⟨asks, owned⟩

theorem ownedClock?_of_hasClock (sound : session.HasSoundClocks)
    (found : session.sources.get? target = some source) (has : source.hasClock slot = true) :
    ∃ owned, session.ownedClock? slot = some owned ∧ owned.type = .rosTime := by
  obtain ⟨entry, member, same⟩ := List.any_eq_true.mp has
  have same : entry.1 = slot := by simpa using same
  subst same
  exact ⟨entry.2, sound.attached target source found entry member⟩

theorem ClockRequest.overrideChange_of_not_writes {request : ClockRequest}
    (quiet : request.writes = false) (held : HeldClock) : request.overrideChange held = id := by
  cases request with
  | rawSet | switchOverride | set => cases quiet
  | rawNow | isOverrideEnabled | now | type | handle | roundTrip => rfl

/-- A clock that has a source may be attached to that source only. -/
theorem Session.Permits.attach {other : Slot}
    (permitted : session.Permits (.source other (.use (.attach slot))))
    (found : session.sources.get? target = some source) (has : source.hasClock slot = true) :
    target = other := by
  by_cases same : target = other
  · exact same
  · have lacks := permitted target source same found
    rw [has] at lacks
    cases lacks

theorem overrideChange_unasked (inStep : session.IsInStep) {step : Step}
    (permitted : session.Permits step) (found : session.sources.get? target = some source)
    (has : source.hasClock slot = true)
    (unasked : ∀ request, step ≠ .source target (.use request)) :
    step.overrideChange session slot = id := by
  cases step with
  | operation | context | timer | startLogging => rfl
  | clock other step =>
    cases step with
    | create | new | dispose | drop => rfl
    | use request =>
      simp only [Step.overrideChange]
      split
      · next same =>
        subst same
        cases writes : request.writes with
        | false => exact ClockRequest.overrideChange_of_not_writes writes _
        | true =>
          have free := permitted writes target source found
          rw [has] at free
          cases free
      · rfl
  | source other step =>
    cases step with
    | new | newFromEnvironment | drop => rfl
    | use request =>
      have apart : target ≠ other := by
        rintro rfl
        exact unasked request rfl
      simp only [Step.overrideChange]
      cases there : session.sources.get? other with
      | none => rfl
      | some another =>
        apply overrideChange_foreign
        · rw [← Bool.not_eq_true]
          intro hasToo
          exact apart (inStep.alone slot target other source another found there has hasToo)
        · rintro rfl
          exact apart (permitted.attach found has)

/-- A permitted step leaves every attached clock as its source is then. -/
theorem Step.perform_follows (sound : session.HasSoundClocks) (inStep : session.IsInStep)
    {step : Step} (permitted : session.Permits step)
    (found : (step.perform session).2.sources.get? target = some source)
    (has : source.hasClock slot = true) {clock : Clock}
    (there : (step.perform session).2.clockIn slot = some clock) :
    clock = .ros source.override := by
  cases step.clockFate sound slot with
  | released _ empty =>
    rw [Session.clockIn, empty] at there
    cases there
  | made type unused =>
    rcases hasClock_of_perform sound found has with ⟨before, present, had⟩ | ⟨_, owned⟩
    · obtain ⟨owned, owns, _⟩ := ownedClock?_of_hasClock sound present had
      rw [Session.ownedClock?, unused] at owns
      cases owns
    · rw [Session.heldClock, unused] at owned
      cases owned
  | kept _ rewritten =>
    rw [rewritten] at there
    obtain ⟨former, present, rfl⟩ := Option.map_eq_some_iff.mp there
    cases step.sourceFate sound found with
    | kept before unasked =>
      rw [overrideChange_unasked inStep permitted before has unasked, Clock.rewrite_id]
      exact inStep.follows target source slot former before has present
    | new active made =>
      subst made
      cases has
    | asked before request asks known next =>
      subst asks
      subst next
      simp only [Step.overrideChange, known]
      rcases hasClock_of_next has with had | ⟨rfl, owned⟩
      · have follows := inStep.follows target before slot former known had present
        rw [follows, Clock.rewrite_ros]
        exact congrArg Clock.ros (overrideChange_attached request had)
      · obtain ⟨type, made, same⟩ := sound.made slot former present
        cases same .rosTime owned
        obtain ⟨_, override, rfl⟩ | ⟨other, _⟩ := made.ros_or_plain
        · rw [Clock.rewrite_ros, override_next_attach]
          simp only [SourceRequest.overrideChange, owned, and_self, ↓reduceIte]
          rfl
        · exact absurd rfl other

/-- A permitted step gives no clock a second source. -/
theorem Step.perform_alone (sound : session.HasSoundClocks) (inStep : session.IsInStep)
    {step : Step} (permitted : session.Permits step) {other : Slot} {another : TimeSource}
    (found : (step.perform session).2.sources.get? target = some source)
    (foundToo : (step.perform session).2.sources.get? other = some another)
    (has : source.hasClock slot = true) (hasToo : another.hasClock slot = true) :
    target = other := by
  rcases hasClock_of_perform sound found has with ⟨before, there, had⟩ | ⟨rfl, _⟩
  · rcases hasClock_of_perform sound foundToo hasToo with ⟨former, thereToo, hadToo⟩ | ⟨rfl, _⟩
    · exact inStep.alone slot target other before former there thereToo had hadToo
    · exact permitted.attach there had
  · rcases hasClock_of_perform sound foundToo hasToo with ⟨former, thereToo, hadToo⟩ | ⟨same, _⟩
    · exact (permitted.attach thereToo hadToo).symm
    · cases same
      rfl

theorem Step.perform_inStep (sound : session.HasSoundClocks) (inStep : session.IsInStep)
    {step : Step} (permitted : session.Permits step) : (step.perform session).2.IsInStep where
  alone slot target other source another found foundToo has hasToo :=
    step.perform_alone sound inStep permitted found foundToo has hasToo
  ofRosTime target source found := by
    cases step.sourceFate sound found with
    | kept before => exact inStep.ofRosTime target source before
    | new active made =>
      subst made
      rfl
    | asked before request _ there next =>
      subst next
      exact type_last_next request (inStep.ofRosTime target before there)
  follows target source slot clock found has there :=
    step.perform_follows sound inStep permitted found has there

theorem Session.IsInStep.after (sound : session.HasSoundClocks) (inStep : session.IsInStep)
    {steps : List Step} (permitted : session.PermitsAll steps) :
    (session.after steps).IsInStep := by
  induction steps generalizing session with
  | nil => exact inStep
  | cons step rest ih =>
    have next := step.perform_inStep sound inStep permitted.1
    exact ih (step.perform_sound sound) next permitted.2

theorem setActive_answers (sound : session.HasSoundClocks)
    (found : session.sources.get? target = some source) (active : Bool) :
    ((SourceRequest.setActive active).perform target source session).1 =
      .outcome (.value .nothing) := by
  simp only [SourceRequest.perform]
  split
  · rfl
  · have driven := sound.leads found
    have leads : ∀ entry ∈ (source.withActive active).clocks,
        LeadsToRos session.state.objects entry.2.handle := driven
    obtain ⟨after, ended, _⟩ := TimeSource.publishActive_of_ros leads
    have ended : (source.withActive active).publishActive
        (session.putSource target (source.withActive active)).state = .ok () after := ended
    rw [Session.respondUnit, respond_of_ok ended]

theorem update_answers (sound : session.HasSoundClocks)
    (found : session.sources.get? target = some source) {given : TimeSpec} {time : Time}
    (read : given.read = .ok time) :
    ((SourceRequest.update given).perform target source session).1 =
      .outcome (.value .nothing) := by
  have driven := sound.leads found
  have leads : ∀ entry ∈ (source.withTime time).clocks,
      LeadsToRos session.state.objects entry.2.handle := driven
  obtain ⟨after, ended, _⟩ := TimeSource.publishTime_of_ros leads
  have ended : (source.withTime time).publishTime
      (session.putSource target (source.withTime time)).state = .ok () after := ended
  simp only [SourceRequest.perform, read, Session.respondUnit]
  rw [respond_of_ok ended]

theorem attach_answers (sound : session.HasSoundClocks) {owned : OwnedClock}
    (owns : session.ownedClock? slot = some owned) (ros : owned.type = .rosTime) :
    ((SourceRequest.attach slot).perform target source session).1 =
      .outcome (.value .nothing) := by
  obtain ⟨after, ended, _⟩ := source.attach_of_ros slot ros (sound.leadsToRos owns ros)
  simp only [SourceRequest.perform, owns, Session.respondStore, Session.store, Session.act, ended]

theorem attach_refuses {owned : OwnedClock} (owns : session.ownedClock? slot = some owned)
    (other : owned.type ≠ .rosTime) :
    (SourceRequest.attach slot).perform target source session =
      (.outcome (.error (.ofRejection (.cannotAttach owned.type))), session) := by
  have ended : source.attach slot owned session.state = _ := source.attach_of_other slot other
  simp only [SourceRequest.perform, owns, Session.respondStore, Session.store, Session.act, ended]

theorem TimeSource.hasClock_detach (source : TimeSource) (slot : Slot) :
    (source.detach slot).hasClock slot = false := by
  rw [← Bool.not_eq_true]
  intro has
  obtain ⟨entry, member, same⟩ := List.any_eq_true.mp has
  exact of_decide_eq_true (List.mem_filter.mp member).2 (of_decide_eq_true same)

theorem clockIn_of_id (sound : session.HasSoundClocks) {step : Step}
    (held : (step.perform session).2.heldClock slot = session.heldClock slot)
    (quiet : step.overrideChange session slot = id) :
    (step.perform session).2.clockIn slot = session.clockIn slot := by
  cases step.clockFate sound slot with
  | kept _ rewritten =>
    rw [rewritten, quiet]
    cases session.clockIn slot with
    | none => rfl
    | some clock => exact congrArg some clock.rewrite_id
  | released _ empty =>
    rw [Session.clockIn, Session.clockIn, ← held, empty]
    rfl
  | made type unused here =>
    rw [held, Session.heldClock, unused] at here
    cases here

theorem isFree_detach (sound : session.HasSoundClocks) (inStep : session.IsInStep)
    (found : session.sources.get? target = some source) (has : source.hasClock slot = true) :
    ((Step.source target (.use (.detach slot))).perform session).2.IsFree slot := by
  intro other another there
  obtain ⟨owned, owns, _⟩ := ownedClock?_of_hasClock sound found has
  cases (Step.source target (.use (.detach slot))).sourceFate sound there with
  | kept before unasked =>
    rw [← Bool.not_eq_true]
    intro hasToo
    cases inStep.alone slot target other source another found before has hasToo
    exact unasked _ rfl
  | new active made =>
    subst made
    rfl
  | asked before request asks _ next =>
    cases asks
    subst next
    simp only [SourceRequest.next, owns, Option.isSome_some, ↓reduceIte]
    exact before.hasClock_detach slot

theorem now_of_attached (sound : session.HasSoundClocks) (inStep : session.IsInStep)
    (found : session.sources.get? target = some source) (has : source.hasClock slot = true)
    {clock : Clock} (there : session.clockIn slot = some clock) (active : source.active = true) :
    ((Step.clock slot (.use .now)).perform session).1 = .outcome (.value (.time source.last)) := by
  obtain ⟨owned, owns, ros⟩ := ownedClock?_of_hasClock sound found has
  have follows := inStep.follows target source slot clock found has there
  obtain ⟨here, same⟩ := (clockIn_eq_some sound).mp there
  have held := owns
  rw [ownedClock?_eq, owned?_eq_some] at held
  rw [held] at here
  have read : session.state.readClock (.handle slot) = .ok source.last.nanoseconds := by
    rw [State.readClock, same, follows, active]
    rfl
  have answered := ownedNow_answers owns here read source.last.nonnegative
  have time : (⟨source.last.nanoseconds, owned.type, source.last.nonnegative⟩ : Time) =
      source.last := by
    rw [ros, ← inStep.ofRosTime target source found]
  rw [time] at answered
  exact answered

end

/-- Whether a step neither makes, releases, rewrites nor attaches the clock in a slot. -/
def Step.leaves (slot : Slot) : Step → Bool
  | clock target (.use request) => target ≠ slot || !request.writes
  | clock target _ => target ≠ slot
  | source _ (.use (.attach attached)) => attached ≠ slot
  | _ => true

section

variable {session : Session} {slot target : Slot}

theorem heldClock_of_leaves {step : Step} (leaves : step.leaves slot = true) :
    (step.perform session).2.heldClock slot = session.heldClock slot := by
  have foreign (target : Slot) (step : ClockStep) (apart : target ≠ slot) :
      (step.perform target session).2.heldClock slot = session.heldClock slot := by
    refine step.perform_frame (·.heldClock slot) (fun _ _ => rfl)
      (fun session held => heldClock_putClock_of_ne session held (Ne.symm apart)) ?_ session
    intro session
    unfold Session.heldClock
    rw [Slots.get?_erase_of_ne _ (Ne.symm apart)]
  cases step with
  | operation | context | timer | source | startLogging =>
    exact congrFun (Step.heldClock_perform _ session rfl) slot
  | clock target step =>
    cases step with
    | use request =>
      have framed := request.perform_frame (·.heldClock slot) (fun _ _ => rfl)
        (session.clock target).1 (session.clock target).2
      exact framed.trans (congrFun (heldClock_clock session target) slot)
    | create | new | dispose | drop =>
      simp only [Step.leaves, decide_eq_true_eq] at leaves
      exact foreign target _ leaves

theorem overrideChange_of_leaves {step : Step} (free : session.IsFree slot)
    (leaves : step.leaves slot = true) : step.overrideChange session slot = id := by
  cases step with
  | operation | context | timer | startLogging => rfl
  | clock target step =>
    cases step with
    | create | new | dispose | drop => rfl
    | use request =>
      simp only [Step.overrideChange]
      split
      · next same =>
        simp only [Step.leaves, same, ne_eq, not_true_eq_false, decide_false, Bool.false_or,
          Bool.not_eq_true'] at leaves
        exact ClockRequest.overrideChange_of_not_writes leaves _
      · rfl
  | source target step =>
    cases step with
    | new | newFromEnvironment | drop => rfl
    | use request =>
      simp only [Step.overrideChange]
      cases there : session.sources.get? target with
      | none => rfl
      | some source =>
        apply overrideChange_foreign (free target source there)
        rintro rfl
        simp [Step.leaves] at leaves

/-- A step that leaves a free clock changes nothing of it, and it stays free. -/
theorem Session.IsFree.perform (sound : session.HasSoundClocks) (free : session.IsFree slot)
    {step : Step} (leaves : step.leaves slot = true) :
    (step.perform session).2.IsFree slot ∧
      (step.perform session).2.clockIn slot = session.clockIn slot := by
  have held : (step.perform session).2.heldClock slot = session.heldClock slot :=
    heldClock_of_leaves leaves
  constructor
  · intro target source found
    rw [← Bool.not_eq_true]
    intro has
    rcases hasClock_of_perform sound found has with ⟨before, there, had⟩ | ⟨rfl, _⟩
    · rw [free target before there] at had
      cases had
    · simp [Step.leaves] at leaves
  · exact clockIn_of_id sound held (overrideChange_of_leaves free leaves)

theorem Session.IsFree.after (sound : session.HasSoundClocks) (free : session.IsFree slot)
    {steps : List Step} (leaves : ∀ step ∈ steps, step.leaves slot = true) :
    (session.after steps).clockIn slot = session.clockIn slot := by
  induction steps generalizing session with
  | nil => rfl
  | cons step rest ih =>
    obtain ⟨freeThen, same⟩ := free.perform sound (leaves step List.mem_cons_self)
    have rested := ih (step.perform_sound sound) freeThen fun later member =>
      leaves later (List.mem_cons_of_mem _ member)
    exact rested.trans same

end

/-- In a session in which nobody but its source writes the override of an attached clock, and no
clock has two sources, every attached clock has the switch and the last time of its source, and
reads that time while the source is switched on. Switching a source and giving it a time never fail,
and attaching fails exactly for a clock that is not one of ROS time, with nothing changed. One
detaching frees a clock. A source leaves the clocks that it neither has nor is given, and a free
clock is as it was whatever happens to the sources. -/
theorem attached_clocks_follow_source (depth : Nat) (environment : Environment)
    (readings : Nat → RealTime) (steps : List Step)
    (permitted : (Session.start depth environment readings).PermitsAll steps) :
    let session := (Session.start depth environment readings).after steps
    (∀ target source, session.sources.get? target = some source →
      let ask (request : SourceRequest) := (Step.source target (.use request)).perform session
      source.last.type = .rosTime ∧
      (∀ slot, source.hasClock slot = true →
        (∀ clock, session.clockIn slot = some clock →
          clock = .ros ⟨source.active, source.last.nanoseconds⟩ ∧
          (source.active = true → ((Step.clock slot (.use .now)).perform session).1 =
            .outcome (.value (.time source.last)))) ∧
        (ask (.detach slot)).2.IsFree slot ∧
        (ask (.detach slot)).2.clockIn slot = session.clockIn slot) ∧
      (∀ slot request, source.hasClock slot = false → request ≠ .attach slot →
        (ask request).2.clockIn slot = session.clockIn slot) ∧
      (∀ active, (ask (.setActive active)).1 = .outcome (.value .nothing) ∧
        (ask (.setActive active)).2.sources.get? target = some (source.withActive active)) ∧
      (∀ given time, given.read = .ok time →
        (ask (.update given)).1 = .outcome (.value .nothing) ∧
        (ask (.update given)).2.sources.get? target = some (source.withTime time)) ∧
      ∀ slot owned, session.ownedClock? slot = some owned →
        if owned.type = .rosTime then
          (ask (.attach slot)).1 = .outcome (.value .nothing) ∧
            (ask (.attach slot)).2.sources.get? target =
              some { source with clocks := source.clocks ++ [(slot, owned)] }
        else
          ask (.attach slot) =
            (.outcome (.error (.ofRejection (.cannotAttach owned.type))), session)) ∧
    ∀ slot later, session.IsFree slot → (∀ step ∈ later, step.leaves slot = true) →
      (session.after later).clockIn slot = session.clockIn slot := by
  intro session
  have start := start_hasSoundClocks depth environment readings
  have sound : session.HasSoundClocks := start.after steps
  have inStep : session.IsInStep :=
    (start_isInStep depth environment readings).after start permitted
  refine ⟨?_, fun slot later free leaves => free.after sound leaves⟩
  intro target source found ask
  have asked (request : SourceRequest) : ask request = request.perform target source session := by
    change SourceStep.perform target session (.use request) = _
    simp only [SourceStep.perform, found]
  have next (request : SourceRequest) :
      (ask request).2.sources.get? target = some (request.next session source) := by
    rw [asked]
    exact request.get?_perform sound found
  have kept (slot : Slot) (request : SourceRequest)
      (quiet : request.overrideChange session source slot = id) :
      (ask request).2.clockIn slot = session.clockIn slot := by
    apply clockIn_of_id sound
    · exact congrFun (Step.heldClock_perform _ session rfl) slot
    · simp only [Step.overrideChange, found]
      exact quiet
  refine ⟨inStep.ofRosTime target source found, ?_, ?_, ?_, ?_, ?_⟩
  · intro slot has
    refine ⟨?_, isFree_detach sound inStep found has, kept slot (.detach slot) rfl⟩
    intro clock there
    exact ⟨inStep.follows target source slot clock found has there,
      now_of_attached sound inStep found has there⟩
  · intro slot request lacks given
    exact kept slot request (overrideChange_foreign lacks given)
  · intro active
    exact ⟨(congrArg Prod.fst (asked _)).trans (setActive_answers sound found active), next _⟩
  · intro given time read
    refine ⟨(congrArg Prod.fst (asked _)).trans (update_answers sound found read), ?_⟩
    rw [next, SourceRequest.next, read]
  · intro slot owned owns
    split
    · next ros =>
      refine ⟨(congrArg Prod.fst (asked _)).trans (attach_answers sound owns ros), ?_⟩
      rw [next, SourceRequest.next, owns]
      simp only [ros, ↓reduceIte]
    · next other => exact (asked _).trans (attach_refuses owns other)

/-- A clock attached twice before any change, and one attached after all of them. -/
def stepsOfTwoClocks : List Step :=
  [.clock 1 (.new "ROS_TIME"), .clock 2 (.new "ROS_TIME"), .source 1 (.new false),
    .source 1 (.use (.attach 1)), .source 1 (.use (.attach 1)),
    .source 1 (.use (.update ⟨"ROS_TIME", none, some (.clamp 25)⟩)),
    .source 1 (.use (.setActive true)), .source 1 (.use (.attach 2))]

def sessionOfTwoClocks : Session :=
  (Session.start 3 .empty fun _ => ⟨.ok .zero, .ok .zero⟩).after stepsOfTwoClocks

/-- The source in the end. -/
def sourceOfTwoClocks : TimeSource where
  clocks := [(1, ⟨some (.handle 1), .rosTime⟩), (1, ⟨some (.handle 1), .rosTime⟩),
    (2, ⟨some (.handle 2), .rosTime⟩)]
  active := true
  last := ⟨.clamp 25, .rosTime, by decide⟩

theorem get?_of_lone {session : Session} {slot other : Slot} {source : TimeSource}
    (lone : session.sources.entries = [(slot, source)]) (apart : other ≠ slot) :
    session.sources.get? other = none := by
  rw [Slots.get?, lone, List.lookup_cons, beq_false_of_ne apart]
  rfl

theorem Session.permits_of_lone {session : Session} {target slot : Slot} (source : TimeSource)
    (lone : session.sources.entries = [(target, source)]) :
    session.Permits (.source target (.use (.attach slot))) := by
  intro other another apart found
  rw [get?_of_lone lone apart] at found
  cases found

/-- Both clocks read the last time of their source. -/
theorem attached_clocks_follow_source_early_and_late :
    (Session.start 3 .empty fun _ => ⟨.ok .zero, .ok .zero⟩).PermitsAll stepsOfTwoClocks ∧
      ∀ slot ∈ [(1 : Slot), 2],
        sessionOfTwoClocks.clockIn slot = some (.ros ⟨true, .clamp 25⟩) ∧
          ((Step.clock slot (.use .now)).perform sessionOfTwoClocks).1 =
            .outcome (.value (.time ⟨.clamp 25, .rosTime, by decide⟩)) := by
  let once : Slot × OwnedClock := (1, ⟨some (.handle 1), .rosTime⟩)
  have permitted : (Session.start 3 .empty fun _ => ⟨.ok .zero, .ok .zero⟩).PermitsAll
      stepsOfTwoClocks := by
    refine ⟨trivial, trivial, trivial, ?_, ?_, trivial, trivial, ?_, trivial⟩
    · exact Session.permits_of_lone (.new false) (by rfl)
    · exact Session.permits_of_lone { TimeSource.new false with clocks := [once] } (by rfl)
    · exact Session.permits_of_lone { sourceOfTwoClocks with clocks := [once, once] } (by rfl)
  have found : sessionOfTwoClocks.sources.get? 1 = some sourceOfTwoClocks := by rfl
  have known := attached_clocks_follow_source 3 .empty (fun _ => ⟨.ok .zero, .ok .zero⟩)
    stepsOfTwoClocks permitted
  have attached := (known.1 1 sourceOfTwoClocks found).2.1
  have reads (slot : Slot) (has : sourceOfTwoClocks.hasClock slot = true)
      (there : sessionOfTwoClocks.clockIn slot = some (.ros ⟨true, .clamp 25⟩)) :
      sessionOfTwoClocks.clockIn slot = some (.ros ⟨true, .clamp 25⟩) ∧
        ((Step.clock slot (.use .now)).perform sessionOfTwoClocks).1 =
          .outcome (.value (.time sourceOfTwoClocks.last)) :=
    ⟨there, ((attached slot has).1 _ there).2 rfl⟩
  refine ⟨permitted, ?_⟩
  intro slot member
  rcases List.mem_cons.mp member with rfl | last
  · exact reads 1 (by decide) (by rfl)
  · cases List.mem_singleton.mp last
    exact reads 2 (by decide) (by rfl)

end RosClient
