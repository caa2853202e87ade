import RosClient.Proofs.Handle.Keeps

namespace RosClient

namespace Override

def withValue (value : Nanos) (override : Override) : Override :=
  { override with value }

def withActive (active : Bool) (override : Override) : Override :=
  { override with active }

end Override

namespace Clock

/-- A clock of ROS time with an override. -/
def ros (override : Override) : Clock :=
  ⟨.rosTime, some ⟨some override⟩⟩

/-- A clock that was made for a type, whatever its override is now. -/
inductive IsOf : Clock → ClockType → Prop where
  | ros (override : Override) : IsOf (ros override) .rosTime
  | plain {type : ClockType} (other : type ≠ .rosTime) : IsOf ⟨type, some ⟨none⟩⟩ type

theorem isOf_new (type : ClockType) : (new type).IsOf type := by
  by_cases same : type = .rosTime
  · subst same
    exact .ros newOverride
  · simp only [new, same, ↓reduceIte]
    exact .plain same

theorem IsOf.ros_or_plain {clock : Clock} {type : ClockType} (made : clock.IsOf type) :
    (type = .rosTime ∧ ∃ override, clock = .ros override) ∨
      (type ≠ .rosTime ∧ clock = ⟨type, some ⟨none⟩⟩) := by
  cases made with
  | ros override => exact Or.inl ⟨rfl, override, rfl⟩
  | plain other => exact Or.inr ⟨other, rfl⟩

/-- The clock with its override, if it has one, changed. -/
def rewrite (change : Override → Override) (clock : Clock) : Clock :=
  match clock.storedOverride with
  | some override => clock.withOverride (change override)
  | none => clock

@[simp] theorem rewrite_ros (change : Override → Override) (override : Override) :
    (ros override).rewrite change = ros (change override) :=
  rfl

theorem rewrite_of_none {clock : Clock} (absent : clock.storedOverride = none)
    (change : Override → Override) : clock.rewrite change = clock := by
  simp only [rewrite, absent]

theorem rewrite_id (clock : Clock) : clock.rewrite id = clock := by
  obtain ⟨type, storage⟩ := clock
  cases storage with
  | none => rfl
  | some storage =>
    obtain ⟨override⟩ := storage
    cases override <;> rfl

theorem rewrite_rewrite (first second : Override → Override) (clock : Clock) :
    (clock.rewrite first).rewrite second = clock.rewrite (second ∘ first) := by
  obtain ⟨type, storage⟩ := clock
  cases storage with
  | none => rfl
  | some storage =>
    obtain ⟨override⟩ := storage
    cases override <;> rfl

theorem IsOf.rewrite {type : ClockType} {clock : Clock} (made : clock.IsOf type)
    (change : Override → Override) : (clock.rewrite change).IsOf type := by
  cases made with
  | ros override => exact .ros (change override)
  | plain other => exact .plain other

end Clock

/-- The clocks after those at some places were rewritten. -/
def Rewritten (change : Override → Override) (places : Place → Prop) (before after : Objects) :
    Prop :=
  ∀ place, (places place → after.clocks place = (before.clocks place).rewrite change) ∧
    (¬ places place → after.clocks place = before.clocks place)

theorem rewritten_of_same {change : Override → Override} {places : Place → Prop}
    {before after : Objects} (same : after.clocks = before.clocks)
    (alike : ∀ place, places place → (before.clocks place).storedOverride = none) :
    Rewritten change places before after := by
  intro place
  rw [same]
  refine ⟨?_, fun _ => rfl⟩
  intro here
  rw [Clock.rewrite_of_none (alike place here)]

theorem Rewritten.union {change : Override → Override} {first second : Place → Prop}
    {before middle after : Objects} (idempotent : change ∘ change = change)
    (rewritten : Rewritten change first before middle)
    (again : Rewritten change second middle after) :
    Rewritten change (fun place => first place ∨ second place) before after := by
  intro place
  by_cases inFirst : first place
  · have once := (rewritten place).1 inFirst
    refine ⟨fun _ => ?_, fun outside => absurd (Or.inl inFirst) outside⟩
    by_cases inSecond : second place
    · rw [(again place).1 inSecond, once, Clock.rewrite_rewrite, idempotent]
    · rw [(again place).2 inSecond, once]
  · have kept := (rewritten place).2 inFirst
    constructor
    · intro either
      rw [(again place).1 (either.resolve_left inFirst), kept]
    · intro outside
      rw [(again place).2 fun inSecond => outside (Or.inr inSecond), kept]

theorem Rewritten.comp {change next : Override → Override} {places : Place → Prop}
    {before middle after : Objects} (rewritten : Rewritten change places before middle)
    (again : Rewritten next places middle after) :
    Rewritten (next ∘ change) places before after := by
  intro place
  constructor
  · intro inside
    rw [(again place).1 inside, (rewritten place).1 inside, Clock.rewrite_rewrite]
  · intro outside
    rw [(again place).2 outside, (rewritten place).2 outside]

/-- Whatever is behind a handle is a clock of ROS time. -/
def LeadsToRos (objects : Objects) (handle : Handle) : Prop :=
  ∀ place, handle = some place → ∃ override, objects.clocks place = .ros override

theorem Rewritten.leadsToRos {change : Override → Override} {places : Place → Prop}
    {before after : Objects} {handle : Handle} (rewritten : Rewritten change places before after)
    (leads : LeadsToRos before handle) : LeadsToRos after handle := by
  intro place here
  obtain ⟨override, made⟩ := leads place here
  by_cases inside : places place
  · exact ⟨change override, by rw [(rewritten place).1 inside, made, Clock.rewrite_ros]⟩
  · exact ⟨override, by rw [(rewritten place).2 inside, made]⟩

section

variable {action : OverrideAction} {change : Override → Override} {state : State}

theorem changeOverride_of_ros (action : OverrideAction) (change : Override → Override)
    {place : Place} {override : Override} (made : state.objects.clocks place = .ros override) :
    ∃ commit, Verdict.changeOverride action change (some place) state = .ok commit ∧
      Rewritten change (some place = some ·) state.objects commit.objects := by
  have stored : (state.objects.clocks place).override action = .ok override := by
    rw [made]
    rfl
  refine ⟨_, Verdict.changeOverride_eq_ok.mpr ⟨place, rfl, override, stored, rfl⟩, ?_⟩
  intro other
  constructor
  · intro here
    cases here
    rw [made]
    exact replace_self _ _ _
  · intro apart
    exact replace_of_ne _ _ fun same => apart (congrArg some same.symm)

theorem changeOverride_of_plain (action : OverrideAction) (change : Override → Override)
    {place : Place} {type : ClockType} (other : type ≠ .rosTime)
    (made : state.objects.clocks place = ⟨type, some ⟨none⟩⟩) :
    Verdict.changeOverride action change (some place) state = .error (.notRosTime action) := by
  have refused : (state.objects.clocks place).override action = .error (.notRosTime action) := by
    rw [made]
    simp only [Clock.override, other, ↓reduceIte]
  change ((state.objects.clocks place).override action >>= _) = _
  rw [refused]
  rfl

/-- What every change of an override through a handle comes down to. -/
def rewriteThrough (task : Task) (action : OverrideAction) (change : Override → Override)
    (handle : Handle) : Action Unit := do
  if ClockHandle.isValid handle (← get) then
    attempt task (Call.changeOverride action change handle)

theorem setOverride_eq (handle : Handle) (value : Nanos) :
    ClockHandle.setOverride handle value =
      rewriteThrough .setOverride .set (.withValue value) handle :=
  rfl

theorem switchOverride_eq (handle : Handle) (active : Bool) :
    ClockHandle.switchOverride handle active =
      rewriteThrough .switchOverride (if active then .enable else .disable) (.withActive active)
        handle := by
  cases active <;> rfl

variable {task : Task} {handle : Handle}

theorem rewriteThrough_of_ros (task : Task) (action : OverrideAction)
    (change : Override → Override) (leads : LeadsToRos state.objects handle) :
    ∃ after, rewriteThrough task action change handle state = .ok () after ∧
      Rewritten change (handle = some ·) state.objects after.objects := by
  cases handle with
  | none => exact ⟨state, rfl, rewritten_of_same rfl fun _ => nofun⟩
  | some place =>
    obtain ⟨override, made⟩ := leads place rfl
    obtain ⟨commit, accepted, rewritten⟩ := changeOverride_of_ros action change made
    have valid : ClockHandle.isValid (some place) state = true := by
      simp only [ClockHandle.isValid, Objects.isClockValid, Option.any_some, made]
      rfl
    refine ⟨state.committed commit, ?_, rewritten⟩
    rw [rewriteThrough, choice_apply, valid]
    exact attempt_of_ok accepted

theorem rewriteThrough_rewrites
    (made : ∀ place, handle = some place → ∃ type, (state.objects.clocks place).IsOf type) :
    Rewritten change (handle = some ·) state.objects
      (stateOf (rewriteThrough task action change handle state)).objects := by
  cases handle with
  | none => exact rewritten_of_same rfl fun _ => nofun
  | some place =>
    obtain ⟨type, isOf⟩ := made place rfl
    rcases isOf.ros_or_plain with ⟨_, override, ros⟩ | ⟨other, plain⟩
    · have leads : LeadsToRos state.objects (some place) := by
        intro _ here
        cases here
        exact ⟨override, ros⟩
      obtain ⟨after, ended, rewritten⟩ := rewriteThrough_of_ros task action change leads
      rw [ended]
      exact rewritten
    · have same : (stateOf (rewriteThrough task action change (some place) state)).objects =
          state.objects := by
        rw [rewriteThrough, choice_apply]
        split
        · rw [attempt_of_error (changeOverride_of_plain action change other plain)]
          rfl
        · rfl
      apply rewritten_of_same (congrArg Objects.clocks same)
      intro _ here
      cases here
      rw [plain]
      rfl

/-- Changing the override of each entry of a time source never fails and rewrites all their clocks;
a clock that is there twice is rewritten as if it were there once. -/
theorem forM_rewrites {entries : List (Slot × OwnedClock)} {each : OwnedClock → Action Unit}
    (through : ∀ clock, each clock = rewriteThrough task action change clock.handle)
    (idempotent : change ∘ change = change)
    (leads : ∀ entry ∈ entries, LeadsToRos state.objects entry.2.handle) :
    ∃ after, (entries.forM fun entry => each entry.2) state = .ok () after ∧
      Rewritten change (fun place => ∃ entry ∈ entries, entry.2.handle = some place)
        state.objects after.objects := by
  induction entries generalizing state with
  | nil => exact ⟨state, rfl, fun place => ⟨by simp, fun _ => rfl⟩⟩
  | cons entry rest ih =>
    have leadsFirst := leads entry List.mem_cons_self
    obtain ⟨middle, ended, first⟩ := rewriteThrough_of_ros task action change leadsFirst
    have leadsThen (later : Slot × OwnedClock) (member : later ∈ rest) :
        LeadsToRos middle.objects later.2.handle :=
      first.leadsToRos (leads later (List.mem_cons_of_mem _ member))
    obtain ⟨after, endedThen, second⟩ := ih leadsThen
    rw [← through] at ended
    refine ⟨after, (bind_of_ok ended).trans endedThen, ?_⟩
    have both := first.union idempotent second
    simp only [List.mem_cons, exists_eq_or_imp]
    exact both

end

namespace TimeSource

variable {source : TimeSource} {state : State}

/-- The places of the clocks that a source drives. -/
def Drives (source : TimeSource) (place : Place) : Prop :=
  ∃ entry ∈ source.clocks, entry.2.handle = some place

theorem publishTime_of_ros
    (leads : ∀ entry ∈ source.clocks, LeadsToRos state.objects entry.2.handle) :
    ∃ after, source.publishTime state = .ok () after ∧
      Rewritten (.withValue source.last.nanoseconds) source.Drives state.objects after.objects :=
  forM_rewrites (fun clock => setOverride_eq clock.handle _) rfl leads

theorem publishActive_of_ros
    (leads : ∀ entry ∈ source.clocks, LeadsToRos state.objects entry.2.handle) :
    ∃ after, source.publishActive state = .ok () after ∧
      Rewritten (.withActive source.active) source.Drives state.objects after.objects := by
  let told := state.write [.rosTimeSwitched source.active source.clocks.length]
  have leadsThen : ∀ entry ∈ source.clocks, LeadsToRos told.objects entry.2.handle := leads
  obtain ⟨after, ended, rewritten⟩ := forM_rewrites
    (fun clock => switchOverride_eq clock.handle source.active) rfl leadsThen
  exact ⟨after, (bind_of_ok rfl).trans ended, rewritten⟩

theorem attach_of_ros (source : TimeSource) {clock : OwnedClock} (slot : Slot)
    (same : clock.type = .rosTime) (leads : LeadsToRos state.objects clock.handle) :
    ∃ after, source.attach slot clock state =
        .ok { source with clocks := source.clocks ++ [(slot, clock)] } after ∧
      Rewritten (fun _ => ⟨source.active, source.last.nanoseconds⟩) (clock.handle = some ·)
        state.objects after.objects := by
  obtain ⟨middle, valued, first⟩ := rewriteThrough_of_ros .setOverride .set
    (.withValue source.last.nanoseconds) leads
  obtain ⟨after, switched, second⟩ := rewriteThrough_of_ros .switchOverride
    (if source.active then .enable else .disable) (.withActive source.active)
    (first.leadsToRos leads)
  rw [← setOverride_eq] at valued
  rw [← switchOverride_eq] at switched
  refine ⟨after, ?_, first.comp second⟩
  unfold attach
  rw [if_pos same]
  exact (bind_of_ok valued).trans (bind_of_ok switched)

theorem attach_of_other (source : TimeSource) {clock : OwnedClock} (slot : Slot)
    (other : clock.type ≠ .rosTime) :
    source.attach slot clock state =
      .error (.ofRejection (.cannotAttach clock.type)) state := by
  unfold attach
  rw [if_neg other]
  rfl

end TimeSource

end RosClient
