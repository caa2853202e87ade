import RosClient.Proofs.Operation.Objects
import RosClient.Proofs.Run.Moment
import RosClient.Proofs.Timer.Query

namespace RosClient

/-- What happens to a clock. -/
inductive ClockEvent where
  | init (type : ClockType)
  | fini
  | retype (type : ClockType)
  | switch (active : Bool)
  | set (value : Nanos)
  deriving DecidableEq

/-- The event that a request is for its clock, if it goes through. -/
def ClockCall.event? : ClockCall → Option ClockEvent
  | init type => some (.init type)
  | fini => some .fini
  | setType type => some (.retype type)
  | enableOverride => some (.switch true)
  | disableOverride => some (.switch false)
  | setOverride value => some (.set value)
  | isValid | now _ | isOverrideEnabled _ | fields => none

/-- Whether an answer tells that a request of a clock went through; a write of the type, which has
no status, always does. -/
def Answer.passes (answer : Answer) : Bool :=
  answer.isOk || answer = .done

/-- The event that the caller sees for the clock of a slot in an operation and its answer. -/
def clockEventOf? (slot : Slot) (record : Operation × Answer) : Option ClockEvent :=
  match record.1 with
  | .clock (some target) request =>
    if target = slot && record.2.passes then request.event? else none
  | _ => none

/-- What the caller sees happen to the clock of a slot. -/
def clockEvents (slot : Slot) (history : List (Operation × Answer)) : List ClockEvent :=
  history.filterMap (clockEventOf? slot)

namespace ClockEvent

/-- What an event writes to the public type. -/
def type? : ClockEvent → Option ClockType
  | init type => some type
  | fini => some .uninitialized
  | retype type => some type
  | switch _ | set _ => none

/-- The type for which the clock is initialised after an event that decides it, if for any. -/
def initialised? : ClockEvent → Option (Option ClockType)
  | init type => some (some type)
  | fini => some none
  | retype _ | switch _ | set _ => none

/-- What an event writes to the switch; it is off at first. -/
def active? : ClockEvent → Option Bool
  | init _ => some false
  | switch active => some active
  | fini | retype _ | set _ => none

/-- What an event writes to the value; it is zero at first. -/
def value? : ClockEvent → Option Nanos
  | init _ => some .zero
  | set value => some value
  | fini | retype _ | switch _ => none

end ClockEvent

/-- The public type after events: the one last written. -/
def typeAfter (events : List ClockEvent) : ClockType :=
  (lastWritten ClockEvent.type? events).getD .uninitialized

/-- The type of the initialisation that lasts after events. -/
def initialisedAfter (events : List ClockEvent) : Option ClockType :=
  (lastWritten ClockEvent.initialised? events).getD none

/-- The switch of the override after events: where the last switching since the initialisation has
put it. -/
def activeAfter (events : List ClockEvent) : Bool :=
  (lastWritten ClockEvent.active? events).getD false

/-- The value of the override after events: the one last set since the initialisation. -/
def valueAfter (events : List ClockEvent) : Nanos :=
  (lastWritten ClockEvent.value? events).getD .zero

/-- What an event makes of a clock. -/
def ClockEvent.Makes (before after : Clock) : ClockEvent → Prop
  | init type => before.storage = none ∧ after = .new type
  | fini => after = .zero
  | retype type => after = { before with type }
  | switch active =>
    before.type = .rosTime ∧ ∃ override, before.storedOverride = some override ∧
      after = before.withOverride { override with active }
  | set value =>
    before.type = .rosTime ∧ ∃ override, before.storedOverride = some override ∧
      after = before.withOverride { override with value }

theorem clocks_respond_of_ok {α : Type} {state : State} (call : Call α) {verdict : Verdict α}
    [Settles call Fault.status verdict] {commit : Commit α} (accepted : verdict state = .ok commit)
    (output : α → Option Value) (place : Place) :
    (state.respond call output).state.objects.clocks place = commit.objects.clocks place := by
  rw [State.respond_of_ok accepted, State.objects_committed]

theorem changeOverride_makes {action : OverrideAction} {change : Override → Override}
    {place : Place} {state : State}
    (accepted : (state.respondStatus
      (Call.changeOverride action change (some place))).answer.isOk = true) :
    (state.objects.clocks place).type = .rosTime ∧
      ∃ override, (state.objects.clocks place).storedOverride = some override ∧
        (state.respondStatus
          (Call.changeOverride action change (some place))).state.objects.clocks place =
          (state.objects.clocks place).withOverride (change override) := by
  obtain ⟨commit, outcome⟩ := State.isOk_respond_iff.mp accepted
  have stored := clocks_respond_of_ok (Call.changeOverride action change (some place)) outcome
    (fun _ => none) place
  obtain ⟨_, here, override, found, rfl⟩ := Verdict.changeOverride_eq_ok.mp outcome
  cases here
  obtain ⟨rosTime, present⟩ := Clock.override_eq_ok.mp found
  exact ⟨rosTime, override, present, stored.trans (replace_self _ _ _)⟩

theorem passes_respond {α : Type} (state : State) (call : Call α) {verdict : Verdict α}
    [Settles call Fault.status verdict] (output : α → Option Value) :
    (state.respond call output).answer.passes = (state.respond call output).answer.isOk := by
  cases outcome : verdict state with
  | error fault => simp [State.respond_of_error outcome, Answer.passes]
  | ok commit => simp [State.respond_of_ok outcome, Answer.passes]

/-- What an event of a request that went through makes of the clock at its place. -/
theorem ClockCall.perform_makes {request : ClockCall} {event : ClockEvent}
    (known : request.event? = some event) {place : Place} {state : State}
    (passed : (request.perform (some place) state).answer.passes = true) :
    event.Makes (state.objects.clocks place)
      ((request.perform (some place) state).state.objects.clocks place) := by
  cases request with
  | isValid | now | isOverrideEnabled | fields => cases known
  | setType type =>
    cases known
    exact replace_self _ _ _
  | init type =>
    cases known
    obtain ⟨commit, outcome⟩ := State.isOk_respond_iff.mp ((passes_respond ..).symm.trans passed)
    have stored := clocks_respond_of_ok (Call.initClock type (some place)) outcome (fun _ => none)
      place
    obtain ⟨_, here, absent, rfl⟩ := Verdict.initClock_eq_ok.mp outcome
    cases here
    exact ⟨absent, stored.trans (replace_self _ _ _)⟩
  | fini =>
    cases known
    obtain ⟨commit, outcome⟩ := State.isOk_respond_iff.mp ((passes_respond ..).symm.trans passed)
    have stored := clocks_respond_of_ok (Call.finiClock (some place)) outcome (fun _ => none) place
    obtain ⟨_, here, _, rfl⟩ := Verdict.finiClock_eq_ok.mp outcome
    cases here
    exact stored.trans (replace_self _ _ _)
  | enableOverride | disableOverride | setOverride =>
    cases known
    exact changeOverride_makes ((passes_respond ..).symm.trans passed)

theorem ClockCall.perform_quiet {request : ClockCall} {place : Place} {state : State}
    (quiet : (request.perform (some place) state).answer.passes = false ∨ request.event? = none) :
    (request.perform (some place) state).state.objects = state.objects := by
  cases request with
  | isValid | fields => rfl
  | now output => exact (Verdict.clockNow_looks output).objects_respond _ _
  | isOverrideEnabled output => exact (Verdict.isOverrideEnabled_looks output).objects_respond _ _
  | setType type => rcases quiet with failed | unknown <;> contradiction
  | init | fini | enableOverride | disableOverride | setOverride =>
    rcases quiet with failed | unknown
    · exact State.objects_respond_of_not_isOk ((passes_respond ..).symm.trans failed)
    · cases unknown

/-- All that an operation can do to the clock of a slot. -/
theorem Moment.clock_after (moment : Moment) (slot : Slot) :
    match clockEventOf? slot moment.record with
    | some event => event.Makes (moment.state.objects.clocks (.caller slot))
        (moment.after.objects.clocks (.caller slot))
    | none => moment.after.objects.clocks (.caller slot) =
        moment.state.objects.clocks (.caller slot) := by
  obtain ⟨state, operation⟩ := moment
  cases operation with
  | errorIsSet | errorText | resetError | otherThread | setVariable | installLogger | refuse => rfl
  | options | initContext | context | initTimer | timer =>
    exact Operation.perform_keeps _ state (·.clocks (.caller slot)) fun _ _ _ _ => rfl
  | clock target request =>
    by_cases same : target = some slot
    · subst same
      cases passed : (request.perform (some (.caller slot)) state).answer.passes with
      | false =>
        have kept := ClockCall.perform_quiet (Or.inl passed)
        simp only [clockEventOf?, Moment.record, Moment.answer, Moment.effect, Operation.perform,
          pointerTo, Option.map_some, passed, Bool.and_false, Bool.false_eq_true, ↓reduceIte]
        exact congrFun (congrArg Objects.clocks kept) _
      | true =>
        simp only [clockEventOf?, Moment.record, Moment.answer, Moment.effect, Operation.perform,
          pointerTo, Option.map_some, passed, Bool.and_true, decide_true, ↓reduceIte]
        cases known : request.event? with
        | none =>
          have kept : (request.perform (some (.caller slot)) state).state.objects =
              state.objects := ClockCall.perform_quiet (Or.inr known)
          exact congrFun (congrArg Objects.clocks kept) _
        | some event => exact ClockCall.perform_makes known passed
    · have unseen : clockEventOf? slot (Moment.record ⟨state, .clock target request⟩) = none := by
        cases target with
        | none => rfl
        | some found =>
          have other : found ≠ slot := fun here => same (congrArg some here)
          simp [clockEventOf?, Moment.record, other]
      rw [unseen]
      apply (request.perform_objects (pointerTo target) state).keeps (·.clocks (.caller slot))
      apply Objects.hides_clock_of_ne
      intro here
      obtain ⟨found, rfl, there⟩ := Option.map_eq_some_iff.mp here
      cases there
      exact same rfl

/-- The clock that events lead to. Its storage holds an override if it is initialised for ROS time,
whatever the public type says. -/
def clockAfter (events : List ClockEvent) : Clock where
  type := typeAfter events
  storage := (initialisedAfter events).map fun type =>
    ⟨if type = .rosTime then some ⟨activeAfter events, valueAfter events⟩ else none⟩

/-- A clock is what events lead to, and only an initialisation for ROS time can be switched. -/
structure Clock.Follows (clock : Clock) (events : List ClockEvent) : Prop where
  same : clock = clockAfter events
  switchable : initialisedAfter events ≠ none → activeAfter events = true →
    initialisedAfter events = some .rosTime

theorem Clock.Follows.storedOverride_iff {clock : Clock} {events : List ClockEvent}
    (follows : clock.Follows events) {override : Override} :
    clock.storedOverride = some override ↔ initialisedAfter events = some .rosTime ∧
      override = ⟨activeAfter events, valueAfter events⟩ := by
  rw [follows.same, Clock.storedOverride, clockAfter]
  cases initialisedAfter events with
  | none => simp
  | some type => by_cases rosTime : type = .rosTime <;> simp [rosTime, eq_comm]

section

variable (events : List ClockEvent) (event : ClockEvent)

theorem typeAfter_concat :
    typeAfter (events ++ [event]) = event.type?.getD (typeAfter events) := by
  simp only [typeAfter, lastWritten_concat]
  cases event.type? <;> rfl

theorem initialisedAfter_concat :
    initialisedAfter (events ++ [event]) = event.initialised?.getD (initialisedAfter events) := by
  simp only [initialisedAfter, lastWritten_concat]
  cases event.initialised? <;> rfl

theorem activeAfter_concat :
    activeAfter (events ++ [event]) = event.active?.getD (activeAfter events) := by
  simp only [activeAfter, lastWritten_concat]
  cases event.active? <;> rfl

theorem valueAfter_concat :
    valueAfter (events ++ [event]) = event.value?.getD (valueAfter events) := by
  simp only [valueAfter, lastWritten_concat]
  cases event.value? <;> rfl

theorem clockAfter_concat :
    clockAfter (events ++ [event]) =
      ⟨event.type?.getD (typeAfter events),
        (event.initialised?.getD (initialisedAfter events)).map fun type =>
          ⟨if type = .rosTime then
            some ⟨event.active?.getD (activeAfter events), event.value?.getD (valueAfter events)⟩
          else none⟩⟩ := by
  rw [clockAfter, typeAfter_concat, initialisedAfter_concat, activeAfter_concat, valueAfter_concat]

end

/-- One more event writes its registers and leaves the others. -/
theorem Clock.Follows.concat {before after : Clock} {events : List ClockEvent}
    (follows : before.Follows events) {event : ClockEvent} (made : event.Makes before after) :
    after.Follows (events ++ [event]) := by
  have written := clockAfter_concat events event
  cases event with
  | init type =>
    obtain ⟨_, rfl⟩ := made
    refine ⟨?_, ?_⟩
    · rw [written]
      rfl
    · rw [activeAfter_concat]
      exact fun _ switched => nomatch switched
  | fini =>
    cases made
    refine ⟨written.symm, ?_⟩
    rw [initialisedAfter_concat]
    exact fun initialised => absurd rfl initialised
  | retype type =>
    cases made
    refine ⟨?_, ?_⟩
    · rw [written, follows.same]
      rfl
    · rw [initialisedAfter_concat, activeAfter_concat]
      exact follows.switchable
  | switch active =>
    obtain ⟨_, override, stored, rfl⟩ := made
    obtain ⟨initialised, rfl⟩ := follows.storedOverride_iff.mp stored
    refine ⟨?_, fun _ _ => ?_⟩
    · rw [written, follows.same]
      simp [Clock.withOverride, clockAfter, initialised, ClockEvent.type?, ClockEvent.initialised?,
        ClockEvent.active?, ClockEvent.value?]
    · rw [initialisedAfter_concat]
      exact initialised
  | set value =>
    obtain ⟨_, override, stored, rfl⟩ := made
    obtain ⟨initialised, rfl⟩ := follows.storedOverride_iff.mp stored
    refine ⟨?_, ?_⟩
    · rw [written, follows.same]
      simp [Clock.withOverride, clockAfter, initialised, ClockEvent.type?, ClockEvent.initialised?,
        ClockEvent.active?, ClockEvent.value?]
    · rw [initialisedAfter_concat, activeAfter_concat]
      exact follows.switchable

theorem Clock.Follows.zero : Clock.zero.Follows [] :=
  ⟨rfl, fun initialised => absurd rfl initialised⟩

/-- A clock that is what events lead to is after a run what these and those of the run lead to. -/
theorem Clock.Follows.after_run {state : State} {slot : Slot} {events : List ClockEvent}
    (follows : (state.objects.clocks (.caller slot)).Follows events)
    (operations : List Operation) :
    ((state.after operations).objects.clocks (.caller slot)).Follows
      (events ++ clockEvents slot ((state.moments operations).map Moment.record)) := by
  induction operations generalizing state events with
  | nil =>
    rw [State.moments, List.map_nil, clockEvents, List.filterMap_nil, List.append_nil]
    exact follows
  | cons operation rest ih =>
    have made := Moment.clock_after ⟨state, operation⟩ slot
    simp only [State.moments, List.map_cons, clockEvents, List.filterMap_cons]
    cases seen : clockEventOf? slot (Moment.record ⟨state, operation⟩) with
    | none =>
      rw [seen] at made
      exact ih (made.symm ▸ follows)
    | some event =>
      rw [seen] at made
      have longer := ih (follows.concat made)
      rw [List.append_assoc] at longer
      exact longer

/-- The answer that hands on a number of nanoseconds, or the fault for which there is none. -/
def Answer.ofReading : Except Fault Nanos → Answer
  | .ok now => .status .ok (some (.nanos now))
  | .error fault => .status fault.status none

theorem State.answer_respondNanos (state : State) (call : Call Nanos) {verdict : Verdict Nanos}
    [Settles call Fault.status verdict] :
    (state.respondNanos call).answer = .ofReading ((verdict state).map Commit.value) := by
  unfold State.respondNanos
  cases outcome : verdict state with
  | ok commit =>
    rw [State.respond_of_ok outcome]
    rfl
  | error fault =>
    rw [State.respond_of_error outcome]
    rfl

/-- Whoever reads the clock of a slot gets the same reading, or the same fault: a call of the clock
itself, and every timer that runs on it, whose answers count with this reading. -/
structure State.ClockTells (state : State) (slot : Slot) (reading : Except Fault Nanos) :
    Prop where
  answer : ((Operation.clock (some slot) (.now true)).perform state).answer = .ofReading reading
  timers : ∀ place timer, state.objects.timers place = some timer → timer.clock = .caller slot →
    state.Finds place timer reading ∧
      ((TimerCall.sinceLastCall true).perform (some place) state).answer =
        .ofReading (reading.map timer.schedule.sinceLastCall) ∧
      (timer.schedule.canceled = false →
        ((TimerCall.untilNextCall true).perform (some place) state).answer =
          .ofReading (reading.map timer.schedule.untilNextCall))

theorem State.clockTells_of_read {state : State} {slot : Slot} {reading : Except Fault Nanos}
    (read : state.readClock (.caller slot) = reading) : state.ClockTells slot reading where
  answer := by
    have looked : Verdict.clockNow (pointerTo (some slot)) true state =
        state.readClock (.caller slot) >>= fun now => .ok (state.answer now) := rfl
    refine (state.answer_respondNanos _).trans ?_
    rw [looked, read]
    cases reading <;> rfl
  timers place timer present bound := by
    have found : state.Finds place timer reading := ⟨present, bound ▸ read⟩
    refine ⟨found, ?_, fun running => ?_⟩
    · refine (state.answer_respondNanos _).trans ?_
      rw [found.value_timeSinceLastCall]
      rfl
    · refine (state.answer_respondNanos _).trans ?_
      rw [found.value_timeUntilNextCall, running]
      rfl

theorem State.ClockTells.not_fails {state : State} {slot : Slot} {now : Nanos} {fault : Fault}
    (tells : state.ClockTells slot (.ok now)) : ¬ state.ClockTells slot (.error fault) := by
  intro fails
  have both := tells.answer.symm.trans fails.answer
  have different := fault.status_ne_ok
  simp [Answer.ofReading, different.symm] at both

namespace Clock.Follows

variable {clock : Clock} {events : List ClockEvent} (follows : clock.Follows events)

include follows

theorem isSome_storage : clock.storage.isSome = (initialisedAfter events).isSome := by
  rw [follows.same, clockAfter, Option.isSome_map]

theorem type_eq : clock.type = typeAfter events := by
  rw [follows.same, clockAfter]

theorem read_of_unreadable (real : RealTime)
    (unreadable : initialisedAfter events = none ∨ typeAfter events = .uninitialized) :
    clock.read real = .error .clockUnreadable := by
  have invalid : clock.isValid = false := by
    rw [Clock.isValid, follows.isSome_storage, follows.type_eq]
    rcases unreadable with none | untyped
    · simp [none]
    · simp [untyped]
  simp [Clock.read, invalid]

theorem isValid (initialised : initialisedAfter events ≠ none)
    (typed : typeAfter events ≠ .uninitialized) : clock.isValid = true := by
  rw [Clock.isValid, follows.isSome_storage, follows.type_eq]
  simp [Option.isSome_iff_ne_none, initialised, typed]

theorem read_of_active (real : RealTime) (initialised : initialisedAfter events ≠ none)
    (typed : typeAfter events = .rosTime) (active : activeAfter events = true) :
    clock.read real = .ok (valueAfter events) := by
  have valid := follows.isValid initialised (by simp [typed])
  have stored := follows.storedOverride_iff.mpr ⟨follows.switchable initialised active, rfl⟩
  simp [Clock.read, valid, follows.type_eq, typed, Clock.readRosTime, stored, active]

theorem read_of_real (real : RealTime) (initialised : initialisedAfter events ≠ none)
    (typed : typeAfter events ≠ .uninitialized)
    (undriven : ¬ (typeAfter events = .rosTime ∧ activeAfter events = true)) :
    clock.read real =
      Clock.readReal (if typeAfter events = .steadyTime then real.steady else real.system) := by
  have valid := follows.isValid initialised typed
  simp only [Clock.read, valid, ↓reduceIte, follows.type_eq]
  cases type : typeAfter events with
  | uninitialized => exact absurd type typed
  | systemTime | steadyTime => rfl
  | rosTime =>
    have off : activeAfter events = false := by simpa [type] using undriven
    cases stored : clock.storedOverride with
    | none => simp [Clock.readRosTime, stored]
    | some override =>
      obtain ⟨_, rfl⟩ := follows.storedOverride_iff.mp stored
      simp [Clock.readRosTime, stored, off]

end Clock.Follows

/-- The requests of a clock that need its override. -/
def ClockCall.needsOverride : ClockCall → Bool
  | enableOverride | disableOverride | isOverrideEnabled true | setOverride _ => true
  | _ => false

theorem isOk_changeOverride_iff {action : OverrideAction} {change : Override → Override}
    {place : Place} {state : State} :
    (state.respondStatus (Call.changeOverride action change (some place))).answer.isOk = true ↔
      (state.objects.clocks place).type = .rosTime ∧
        ∃ override, (state.objects.clocks place).storedOverride = some override := by
  rw [State.respondStatus, State.isOk_respond_iff]
  simp only [Verdict.changeOverride_eq_ok, Clock.override_eq_ok, Option.some.injEq]
  constructor
  · rintro ⟨_, _, rfl, override, ⟨rosTime, stored⟩, _⟩
    exact ⟨rosTime, override, stored⟩
  · rintro ⟨rosTime, override, stored⟩
    exact ⟨_, place, rfl, override, ⟨rosTime, stored⟩, rfl⟩

theorem isOk_isOverrideEnabled_iff {place : Place} {state : State} :
    (state.respondFlag (Call.isOverrideEnabled (some place) true)).answer.isOk = true ↔
      (state.objects.clocks place).type = .rosTime ∧
        ∃ override, (state.objects.clocks place).storedOverride = some override := by
  rw [State.respondFlag, State.isOk_respond_iff]
  simp only [Verdict.isOverrideEnabled_eq_ok, Clock.override_eq_ok, Option.some.injEq, true_and]
  constructor
  · rintro ⟨_, _, rfl, override, ⟨rosTime, stored⟩, _⟩
    exact ⟨rosTime, override, stored⟩
  · rintro ⟨rosTime, override, stored⟩
    exact ⟨_, place, rfl, override, ⟨rosTime, stored⟩, rfl⟩

/-- The requests that need the override go through exactly if the type says ROS time and there is
an override. -/
theorem ClockCall.isOk_perform_iff {request : ClockCall} (needs : request.needsOverride = true)
    {place : Place} {state : State} :
    (request.perform (some place) state).answer.isOk = true ↔
      (state.objects.clocks place).type = .rosTime ∧
        ∃ override, (state.objects.clocks place).storedOverride = some override := by
  cases request with
  | init | isValid | now | fini | setType | fields => cases needs
  | enableOverride | disableOverride | setOverride => exact isOk_changeOverride_iff
  | isOverrideEnabled output =>
    cases output with
    | false => cases needs
    | true =>
      exact isOk_isOverrideEnabled_iff

/-- The override of a clock of the caller as its history tells: its four requests go through exactly
while the type says ROS time and the clock is initialised for ROS time; then the switch is where the
last switching since the initialisation has put it. While the type says ROS time and the switch is
on, the clock and all timers on it read the value last set since the initialisation; a clock that is
not initialised, or whose type says so, cannot be read; any other reads the operating system's clock
for its type. -/
theorem override_is_register (start : State) (slot : Slot)
    (zero : start.objects.clocks (.caller slot) = .zero) (depth : Nat)
    (operations : List Operation) {history rest : List (Operation × Answer)}
    (told : Reply.recordsEach (runEach (run depth) operations start).1 = history ++ rest) :
    let reached := start.after (history.map Prod.fst)
    let events := clockEvents slot history
    (∀ request : ClockCall, request.needsOverride = true →
      (((Operation.clock (some slot) request).perform reached).answer.isOk = true ↔
        typeAfter events = .rosTime ∧ initialisedAfter events = some .rosTime)) ∧
    (typeAfter events = .rosTime → initialisedAfter events = some .rosTime →
      ((Operation.clock (some slot) (.isOverrideEnabled true)).perform reached).answer =
        .status .ok (some (.flag (activeAfter events)))) ∧
    ∀ system steady, reached.realTime = ⟨.ok system, .ok steady⟩ →
      ((∃ fault, reached.ClockTells slot (.error fault)) ↔
        initialisedAfter events = none ∨ typeAfter events = .uninitialized) ∧
      (initialisedAfter events ≠ none → typeAfter events = .rosTime → activeAfter events = true →
        reached.ClockTells slot (.ok (valueAfter events))) ∧
      (initialisedAfter events ≠ none → typeAfter events ≠ .uninitialized →
        ¬ (typeAfter events = .rosTime ∧ activeAfter events = true) →
        reached.ClockTells slot
          (.ok (if typeAfter events = .steadyTime then steady else system))) := by
  intro reached events
  rw [records_runEach] at told
  obtain ⟨past, _⟩ := State.records_split told
  have follows : (reached.objects.clocks (.caller slot)).Follows events := by
    have new : (start.objects.clocks (.caller slot)).Follows [] := zero.symm ▸ Clock.Follows.zero
    have led := new.after_run (history.map Prod.fst)
    rw [← past] at led
    exact led
  refine ⟨?_, ?_, ?_⟩
  · intro request needs
    refine (ClockCall.isOk_perform_iff needs).trans ?_
    rw [follows.type_eq]
    simp only [follows.storedOverride_iff, exists_and_left, exists_eq, and_true]
  · intro rosTime initialised
    have stored := follows.storedOverride_iff.mpr ⟨initialised, rfl⟩
    have found : (reached.objects.clocks (.caller slot)).override .query = .ok _ :=
      Clock.override_eq_ok.mpr ⟨follows.type_eq.trans rosTime, stored⟩
    have answered := Verdict.isOverrideEnabled_eq_ok.mpr ⟨rfl, _, rfl, _, found, rfl⟩
    exact congrArg Effect.answer (State.respond_of_ok answered)
  · intro system steady readable
    have driven initialised typed active :=
      State.clockTells_of_read (follows.read_of_active reached.realTime initialised typed active)
    have undriven (initialised : initialisedAfter events ≠ none)
        (typed : typeAfter events ≠ .uninitialized)
        (off : ¬ (typeAfter events = .rosTime ∧ activeAfter events = true)) :
        reached.ClockTells slot
          (.ok (if typeAfter events = .steadyTime then steady else system)) := by
      apply State.clockTells_of_read
      rw [State.readClock, follows.read_of_real reached.realTime initialised typed off, readable]
      cases typeAfter events <;> rfl
    refine ⟨⟨?_, ?_⟩, driven, undriven⟩
    · rintro ⟨fault, fails⟩
      apply Decidable.byContradiction
      intro readableNow
      obtain ⟨initialised, typed⟩ := not_or.mp readableNow
      by_cases on : typeAfter events = .rosTime ∧ activeAfter events = true
      · exact (driven initialised on.1 on.2).not_fails fails
      · exact (undriven initialised typed on).not_fails fails
    · intro unreadable
      exact ⟨_, State.clockTells_of_read (follows.read_of_unreadable reached.realTime unreadable)⟩

/-- A callback switches the override of a ROS clock on; then the clock is relabelled, its value
cannot be set, and it is labelled ROS time again. -/
def relabelledRun : List Operation :=
  [.options (some 4) .init, .initContext 0 none (some 4) (some 3),
    .clock (some 2) (.init .rosTime), .clock (some 2) (.setOverride (.clamp 35)),
    .initTimer (some 1) (some 2) (some 3) .zero (some 7) fun _ => [.clock (some 2) .enableOverride],
    .timer (some 1) .call, .clock (some 2) (.setType .systemTime),
    .clock (some 2) (.setOverride (.clamp 9)), .clock (some 2) (.setType .rosTime)]

/-- A process whose system clock stands at 20 and whose steady clock stands at 7. -/
def stillState : State :=
  { readings := fun _ => ⟨.ok (.clamp 20), .ok (.clamp 7)⟩ }

/-- The value set first is read in the end, also by the timer. -/
theorem override_is_register_relabelled :
    clockEvents 2 (Reply.recordsEach (runEach (run 3) relabelledRun stillState).1) =
        [.init .rosTime, .set (.clamp 35), .switch true, .retype .systemTime, .retype .rosTime] ∧
      (stillState.after (stillState.trace 3 relabelledRun)).ClockTells 2 (.ok (.clamp 35)) := by
  have events : clockEvents 2 (Reply.recordsEach (runEach (run 3) relabelledRun stillState).1) =
      [.init .rosTime, .set (.clamp 35), .switch true, .retype .systemTime, .retype .rosTime] := by
    rfl
  have register := override_is_register stillState 2 rfl 3 relabelledRun (List.append_nil _).symm
  rw [map_fst_records, events] at register
  obtain ⟨_, _, reads⟩ := register
  exact ⟨events, (reads (.clamp 20) (.clamp 7) rfl).2.1 (by decide) rfl rfl⟩

end RosClient
