import RosClient.Proofs.Run.Seen
import RosClient.Proofs.Timer.Order

namespace RosClient

/-- The state without the timer at a place. -/
def State.withoutTimer (state : State) (place : Place) : State :=
  { state with objects := state.objects.setTimer place none }

theorem Schedule.start_eq {period : Nanos} (nonnegative : 0 ≤ period.value) (now : Nanos) :
    start period now =
      { period, lastCall := now
        nextCall := .clamp (min Nanos.last.value (now.value + period.value))
        canceled := false } := by
  have below := now.least
  have armed : now.add period = .clamp (min Nanos.last.value (now.value + period.value)) := by
    apply Nanos.ext
    rw [Nanos.value_add, Nanos.value_clamp, Nanos.value_last]
    omega
  rw [start, armed]

section

variable {state : State} {place : Place} {timer : Timer} {owner : Option Place} {now : Nanos}

theorem initTimer_of_present (nonnegative : 0 ≤ timer.schedule.period.value)
    (read : state.readClock timer.clock = .ok now)
    (valid : state.objects.isContextValid owner = true)
    (absent : state.objects.timers place = none) :
    Verdict.initTimer (some place) (some timer.clock) owner timer.schedule.period timer.callback
        state =
      .ok (state.commit (state.objects.setTimer place
        (some { timer with schedule := .start timer.schedule.period now }))) := by
  obtain ⟨held, _, _, rfl, _⟩ := Verdict.isContextValid_iff.mp valid
  exact Verdict.initTimer_eq_ok.mpr
    ⟨place, rfl, timer.clock, rfl, ⟨held, rfl⟩, absent, nonnegative, valid, now, read, rfl⟩

theorem initTimer_withoutTimer (place : Place) (nonnegative : 0 ≤ timer.schedule.period.value)
    (read : state.readClock timer.clock = .ok now)
    (valid : state.objects.isContextValid owner = true) :
    Verdict.initTimer (some place) (some timer.clock) owner timer.schedule.period timer.callback
        (state.withoutTimer place) =
      .ok (state.commit (Verdict.reschedule state place timer (timer.schedule.reset now))) := by
  have readToo : (state.withoutTimer place).readClock timer.clock = .ok now := read
  have absent : (state.withoutTimer place).objects.timers place = none := replace_self _ _ _
  rw [initTimer_of_present nonnegative readToo valid absent]
  simp only [State.withoutTimer, State.commit, Objects.setTimer_setTimer, Verdict.reschedule,
    Schedule.reset]

theorem respond_initTimer_withoutTimer (nonnegative : 0 ≤ timer.schedule.period.value)
    (read : state.readClock timer.clock = .ok now)
    (valid : state.objects.isContextValid owner = true)
    (present : state.objects.timers place = some timer) :
    (state.withoutTimer place).respondStatus
        (Call.initTimer (some place) (some timer.clock) owner timer.schedule.period
          timer.callback) =
      state.respondStatus (Call.resetTimer (some place)) := by
  have made := initTimer_withoutTimer place nonnegative read valid
  have reset := Verdict.resetTimer_eq_ok.mpr ⟨place, timer, ⟨rfl, present⟩, now, read, rfl⟩
  rw [State.respondStatus_of_ok made, State.respondStatus_of_ok reset]
  rfl

end

/-- A reset that goes through leaves the timer as an initialisation at the same reading leaves a new
timer with its clock, period and callback: in any free place of the same state, and in its own place
in the state without it. From that state, or from any other that goes on as it does, all later
operations have the same replies as after the reset. -/
theorem reset_is_new_timer (depth : Nat) (environment : Environment) (readings : Nat → RealTime)
    (deeds : List Step) (place : Place) {timer : Timer} {after : State} :
    let reached := ((Session.start depth environment readings).afterDeeds deeds).state
    reached.objects.timers place = some timer →
    Call.resetTimer (some place) reached = .ok () after →
    ∃ now, reached.readClock timer.clock = .ok now ∧
      after.objects.timers place = some { timer with schedule := {
        period := timer.schedule.period
        lastCall := now
        nextCall := .clamp (min Nanos.last.value (now.value + timer.schedule.period.value))
        canceled := false } } ∧
      ∀ owner, reached.objects.isContextValid owner = true →
        let initIn := fun free => Call.initTimer (some free) (some timer.clock) owner
          timer.schedule.period timer.callback
        (∀ free, reached.objects.timers free = none → ∃ made, initIn free reached = .ok () made ∧
          made.objects.timers free = after.objects.timers place) ∧
        (reached.withoutTimer place).respondStatus (initIn place) =
          reached.respondStatus (Call.resetTimer (some place)) ∧
        ∀ other : State, other.GoesOnAs (reached.withoutTimer place) →
          (other.respondStatus (initIn place)).answer = .status .ok none ∧
          ∀ depth later, (runEach (run depth) later (other.respondStatus (initIn place)).state).1 =
            (runEach (run depth) later
              (reached.respondStatus (Call.resetTimer (some place))).state).1 := by
  intro reached present through
  obtain ⟨commit, accepted, _, rfl⟩ := State.accepted_of_ok through
  obtain ⟨_, _, ⟨here, there⟩, now, read, rfl⟩ := Verdict.resetTimer_eq_ok.mp accepted
  cases here
  cases present.symm.trans there
  have sound :=
    (start_hasSoundTimers depth environment readings).afterDeeds deeds place timer present
  have nonnegative := sound.ordered.period
  have left : (Verdict.reschedule reached place timer (timer.schedule.reset now)).timers place =
      some { timer with schedule := .start timer.schedule.period now } :=
    Verdict.timers_reschedule ..
  refine ⟨now, read, ?_, ?_⟩
  · rw [← Schedule.start_eq nonnegative]
    exact left
  intro owner valid initIn
  have same := respond_initTimer_withoutTimer nonnegative read valid present
  refine ⟨?_, same, ?_⟩
  · intro free absent
    exact ⟨_, State.call_of_ok (initTimer_of_present nonnegative read valid absent),
      (replace_self _ _ _).trans left.symm⟩
  · intro other goesOn
    have onward : (other.respondStatus (initIn place)).GoesOnAs
        ((reached.withoutTimer place).respondStatus (initIn place)) :=
      goesOn.respond (fun _ => rfl) _
    have reset : (reached.respondStatus (Call.resetTimer (some place))).answer =
        .status .ok none := congrArg Effect.answer (State.respondStatus_of_ok accepted)
    refine ⟨onward.answer.trans ((congrArg Effect.answer same).trans reset), ?_⟩
    intro depth later
    rw [← same]
    exact onward.state.replies_eq depth later

/-- A timer whose clock jumps back behind its last call, whose period is exchanged, and which is
canceled. -/
def neglectedRun : List Operation :=
  [.options (some 4) .init, .initContext 0 none (some 4) (some 3),
    .clock (some 2) (.init .rosTime), .clock (some 2) .enableOverride,
    .clock (some 2) (.setOverride (.clamp 100)), initOfTimer,
    .clock (some 2) (.setOverride (.clamp 35)),
    .timer (some 1) (.exchangePeriod (.clamp 25) true), .timer (some 1) .cancel]

/-- The state that this leads to. -/
def neglectedState : State :=
  ((Session.start 3 .empty fun _ => ⟨.ok .zero, .ok .zero⟩).afterDeeds
    (neglectedRun.map .operation)).state

/-- The timer initialised anew with the period that it has then. -/
def initAnew : Operation :=
  .initTimer (some 1) (some 2) (some 3) (.clamp 25) (some 7) fun _ => [.timer (some 1) .call]

/-- The deadline is at 60 after the reset, and releasing the timer and initialising it anew has the
same replies from then on. -/
theorem reset_is_new_timer_neglected :
    ((Operation.timer (some 1) (.untilNextCall true)).perform
        ((Operation.timer (some 1) .reset).perform neglectedState).state).answer =
        .status .ok (some (.nanos (.clamp 25))) ∧
      ∀ depth later, (runEach (run depth) later
          (neglectedState.after [.timer (some 1) .fini, initAnew])).1 =
        (runEach (run depth) later (neglectedState.after [.timer (some 1) .reset])).1 := by
  refine ⟨rfl, ?_⟩
  obtain ⟨now, _, _, onward⟩ := reset_is_new_timer 3 .empty (fun _ => ⟨.ok .zero, .ok .zero⟩)
    (neglectedRun.map .operation) (.caller 1) rfl rfl
  have released : ((Operation.timer (some 1) .fini).perform neglectedState).state.GoesOnAs
      (neglectedState.withoutTimer (.caller 1)) := by
    have ended : neglectedState.respondStatus (Call.finiTimer (some (.caller 1))) = _ :=
      State.respondStatus_of_ok rfl
    change (neglectedState.respondStatus (Call.finiTimer (some (.caller 1)))).state.GoesOnAs _
    rw [ended]
    exact ⟨rfl, rfl, rfl, fun _ => rfl⟩
  exact ((onward (some (.caller 3)) rfl).2.2 _ released).2

end RosClient
