import RosClient.Call.Clock
import RosClient.Proofs.Verdict.Basic

namespace RosClient

namespace Clock

/-- A reading of one of the operating system's clocks. -/
def readReal (reading : Except String Nanos) : Except Fault Nanos :=
  reading.mapError .readingFailed

/-- What a clock of ROS time reads. -/
def readRosTime (clock : Clock) (real : RealTime) : Except Fault Nanos :=
  match clock.storedOverride with
  | some override => if override.active then .ok override.value else readReal real.system
  | none => readReal real.system

/-- What the clock reads. -/
def read (clock : Clock) (real : RealTime) : Except Fault Nanos :=
  if clock.isValid then
    match clock.type with
    | .uninitialized => .error .clockUnreadable
    | .rosTime => clock.readRosTime real
    | .systemTime => readReal real.system
    | .steadyTime => readReal real.steady
  else .error .clockUnreadable

/-- The override, for an action that needs it. -/
def override (clock : Clock) (action : OverrideAction) : Except Fault Override :=
  if clock.type = .rosTime then
    match clock.storedOverride with
    | some override => .ok override
    | none => .error .overrideMissing
  else .error (.notRosTime action)

end Clock

/-- What the clock at a place reads at this call. -/
def State.readClock (state : State) (place : Place) : Except Fault Nanos :=
  (state.objects.clocks place).read state.realTime

namespace Verdict

def initClock (type : ClockType) (pointer : Option Place) : Verdict Unit := fun state => do
  let place ← required "clock" pointer
  if (state.objects.clocks place).storage.isSome then .error .clockInitialized
  else .ok (state.commit (state.objects.setClock place (.new type)))

def clockNow (pointer : Option Place) (output : Bool) : Verdict Nanos := fun state => do
  let place ← required "clock" pointer
  requireOutput "time_point_value" output
  let now ← state.readClock place
  .ok (state.answer now)

def changeOverride (action : OverrideAction) (change : Override → Override)
    (pointer : Option Place) : Verdict Unit := fun state => do
  let place ← required "clock" pointer
  let clock := state.objects.clocks place
  let override ← clock.override action
  .ok (state.commit (state.objects.setClock place (clock.withOverride (change override))))

def isOverrideEnabled (pointer : Option Place) (output : Bool) : Verdict Bool := fun state => do
  let place ← required "clock" pointer
  requireOutput "is_enabled" output
  let override ← (state.objects.clocks place).override .query
  .ok (state.answer override.active)

def finiClock (pointer : Option Place) : Verdict Unit := fun state => do
  let place ← required "clock" pointer
  if (state.objects.clocks place).storage.isSome then
    .ok (state.commit (state.objects.setClock place .zero))
  else .error .clockUninitialized

end Verdict

theorem readReal_checks (reading : Except String Nanos) :
    Checks (Call.readReal reading) Fault.status fun _ => Clock.readReal reading := by
  intro state
  cases reading <;> rfl

theorem readClock_checks (place : Place) :
    Checks (Call.readClock place) Fault.status fun state => state.readClock place := by
  intro state
  change (if !(state.objects.clocks place).isValid then _ else _ : Call Nanos) state =
    state.sift Fault.status ((state.objects.clocks place).read state.realTime)
  unfold Clock.read
  cases valid : (state.objects.clocks place).isValid with
  | false => rfl
  | true =>
    cases type : (state.objects.clocks place).type with
    | uninitialized => simp [Clock.isValid, type] at valid
    | systemTime => exact readReal_checks _ state
    | steadyTime => exact readReal_checks _ state
    | rosTime =>
      unfold Clock.readRosTime
      cases (state.objects.clocks place).storedOverride with
      | none => exact readReal_checks _ state
      | some override =>
        obtain ⟨active, value⟩ := override
        cases active with
        | false => exact readReal_checks _ state
        | true => rfl

theorem rosOverride_checks (place : Place) (action : OverrideAction) :
    Checks (Call.rosOverride place action) Fault.status
      fun state => (state.objects.clocks place).override action := by
  intro state
  change (if (state.objects.clocks place).type ≠ .rosTime then _ else _ : Call Override) state =
    state.sift Fault.status ((state.objects.clocks place).override action)
  unfold Clock.override
  by_cases rosTime : (state.objects.clocks place).type = .rosTime
  · simp only [rosTime, ne_eq, not_true_eq_false, ↓reduceIte]
    cases (state.objects.clocks place).storedOverride <;> rfl
  · simp only [rosTime, ne_eq, not_false_eq_true, ↓reduceIte]
    rfl

namespace Verdict

instance (type : ClockType) (clock : Option Place) :
    Settles (Call.initClock type clock) Fault.status (initClock type clock) where
  settles state := by
    refine (required_checks "clock" clock Fault.status).bind ?_
    intro place _
    change (if (state.objects.clocks place).storage.isSome then _ else _ : Call Unit) state = _
    cases (state.objects.clocks place).storage with
    | some storage => rfl
    | none => exact (state.settle_commit _ _).symm

instance (clock : Option Place) (output : Bool) :
    Settles (Call.clockNow clock output) Fault.status (clockNow clock output) where
  settles state := by
    refine (required_checks "clock" clock Fault.status).bind ?_
    intro place _
    refine (requireOutput_checks "time_point_value" output).bind ?_
    intro _ _
    exact (readClock_checks place).settle state

instance (action : OverrideAction) (change : Override → Override) (clock : Option Place) :
    Settles (Call.changeOverride action change clock) Fault.status
      (changeOverride action change clock) where
  settles state := by
    refine (required_checks "clock" clock Fault.status).bind ?_
    intro place _
    refine (rosOverride_checks place action).bind ?_
    intro override _
    exact (state.settle_commit _ _).symm

instance (clock : Option Place) :
    Settles (Call.enableOverride clock) Fault.status
      (changeOverride .enable (fun override => { override with active := true }) clock) :=
  inferInstanceAs (Settles
    (Call.changeOverride .enable (fun override => { override with active := true }) clock) _ _)

instance (clock : Option Place) :
    Settles (Call.disableOverride clock) Fault.status
      (changeOverride .disable (fun override => { override with active := false }) clock) :=
  inferInstanceAs (Settles
    (Call.changeOverride .disable (fun override => { override with active := false }) clock) _ _)

instance (clock : Option Place) (value : Nanos) :
    Settles (Call.setOverride clock value) Fault.status
      (changeOverride .set (fun override => { override with value }) clock) :=
  inferInstanceAs (Settles
    (Call.changeOverride .set (fun override => { override with value }) clock) _ _)

instance (clock : Option Place) (output : Bool) :
    Settles (Call.isOverrideEnabled clock output) Fault.status
      (isOverrideEnabled clock output) where
  settles state := by
    refine (required_checks "clock" clock Fault.status).bind ?_
    intro place _
    refine (requireOutput_checks "is_enabled" output).bind ?_
    intro _ _
    exact (rosOverride_checks place .query).answer

instance (clock : Option Place) :
    Settles (Call.finiClock clock) Fault.status (finiClock clock) where
  settles state := by
    refine (required_checks "clock" clock Fault.status).bind ?_
    intro place _
    change (if (state.objects.clocks place).storage.isNone then _ else _ : Call Unit) state = _
    cases (state.objects.clocks place).storage with
    | some storage => exact (state.settle_commit _ _).symm
    | none => rfl

end Verdict

theorem Clock.override_eq_ok {clock : Clock} {action : OverrideAction} {override : Override} :
    clock.override action = .ok override ↔
      clock.type = .rosTime ∧ clock.storedOverride = some override := by
  unfold Clock.override
  split
  · next rosTime =>
    split
    · next stored => simp [rosTime, stored]
    · next missing => simp [missing]
  · next other => simp [other]

namespace Verdict

variable {state : State} {clock : Option Place}

theorem initClock_eq_ok {type : ClockType} {commit : Commit Unit} :
    initClock type clock state = .ok commit ↔
      ∃ place, clock = some place ∧ (state.objects.clocks place).storage = none ∧
        state.commit (state.objects.setClock place (.new type)) = commit := by
  simp only [initClock, bind_eq_ok, required_eq_ok, refusal_eq_ok, Option.not_isSome_iff_eq_none,
    Except.ok.injEq]

theorem changeOverride_eq_ok {action : OverrideAction} {change : Override → Override}
    {commit : Commit Unit} :
    changeOverride action change clock state = .ok commit ↔
      ∃ place, clock = some place ∧
        ∃ override, (state.objects.clocks place).override action = .ok override ∧
          state.commit (state.objects.setClock place
            ((state.objects.clocks place).withOverride (change override))) = commit := by
  simp only [changeOverride, bind_eq_ok, required_eq_ok, Except.ok.injEq]

theorem finiClock_eq_ok {commit : Commit Unit} :
    finiClock clock state = .ok commit ↔
      ∃ place, clock = some place ∧ (state.objects.clocks place).storage.isSome = true ∧
        state.commit (state.objects.setClock place .zero) = commit := by
  simp only [finiClock, bind_eq_ok, required_eq_ok]
  constructor
  · rintro ⟨place, rfl, released⟩
    split at released
    · next present => exact ⟨place, rfl, present, Except.ok.inj released⟩
    · cases released
  · rintro ⟨place, rfl, present, rfl⟩
    exact ⟨place, rfl, by rw [present]; rfl⟩

theorem clockNow_looks (output : Bool) : (clockNow clock output).Looks := by
  intro state commit accepted
  simp only [clockNow, bind_eq_ok, Except.ok.injEq] at accepted
  obtain ⟨place, _, _, _, now, _, rfl⟩ := accepted
  exact ⟨_, rfl⟩

theorem isOverrideEnabled_eq_ok {output : Bool} {commit : Commit Bool} :
    isOverrideEnabled clock output state = .ok commit ↔
      output = true ∧ ∃ place, clock = some place ∧
        ∃ override, (state.objects.clocks place).override .query = .ok override ∧
          state.answer override.active = commit := by
  simp only [isOverrideEnabled, bind_eq_ok, required_eq_ok, requireOutput_eq_ok, exists_const,
    Except.ok.injEq]
  constructor
  · rintro ⟨place, rfl, given, found⟩
    exact ⟨given, place, rfl, found⟩
  · rintro ⟨given, place, rfl, found⟩
    exact ⟨place, rfl, given, found⟩

theorem isOverrideEnabled_looks (output : Bool) : (isOverrideEnabled clock output).Looks := by
  intro state commit accepted
  obtain ⟨_, _, _, override, _, rfl⟩ := isOverrideEnabled_eq_ok.mp accepted
  exact ⟨_, rfl⟩

end Verdict

end RosClient
