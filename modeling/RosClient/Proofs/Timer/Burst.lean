import RosClient.Proofs.Timer.Grid

namespace RosClient

namespace Schedule

/-- How many calls may still go through while the clock stands at a reading. -/
def callsLeft (schedule : Schedule) (now : Nanos) : Nat :=
  if schedule.nextCall.value < now.value then 2
  else if schedule.nextCall.value = now.value then 1
  else 0

/-- The schedule after a call at a reading. -/
def called (schedule : Schedule) (now : Nanos) : Schedule :=
  { schedule with
    lastCall := now
    nextCall := nextDeadline schedule.nextCall schedule.period now }

variable {schedule : Schedule} {now : Nanos}

theorem callsLeft_le_two (schedule : Schedule) (now : Nanos) : schedule.callsLeft now ≤ 2 := by
  unfold callsLeft
  split
  · exact Nat.le_refl 2
  · split <;> omega

theorem callsLeft_eq_zero : schedule.callsLeft now = 0 ↔ now.value < schedule.nextCall.value := by
  unfold callsLeft
  split
  · omega
  · split <;> omega

theorem callsLeft_of_le (reached : now.value ≤ schedule.nextCall.value) :
    schedule.callsLeft now ≤ 1 := by
  unfold callsLeft
  split
  · omega
  · split <;> omega

theorem callsLeft_of_lt (late : schedule.nextCall.value < now.value) :
    schedule.callsLeft now = 2 := by
  simp only [callsLeft, late, ↓reduceIte]

theorem callsLeft_reset (positive : 0 < schedule.period.value)
    (inside : now.value < Nanos.last.value) : (schedule.reset now).callsLeft now = 0 := by
  rw [callsLeft_eq_zero]
  have sum := Nanos.value_add now schedule.period
  have least := now.least
  rw [Nanos.value_last] at inside
  change now.value < (now.add schedule.period).value
  omega

/-- After a call another one is due at its reading only if whole periods were missed, and the last
one of them ends right there. -/
theorem steps_of_callsLeft_called (positive : 0 < schedule.period.value)
    (inside : now.value < Nanos.last.value) (left : (schedule.called now).callsLeft now ≠ 0) :
    ∃ steps, 1 ≤ steps ∧
      now.value = schedule.nextCall.value + steps * schedule.period.value := by
  obtain ⟨steps, first, moved⟩ := nextDeadline_steps schedule.nextCall schedule.period now positive
  rw [Ne, callsLeft_eq_zero, Int.not_lt] at left
  change (nextDeadline schedule.nextCall schedule.period now).value ≤ now.value at left
  have reached := first.reaches
  exact ⟨steps, first.positive, by omega⟩

theorem callsLeft_called (positive : 0 < schedule.period.value)
    (inside : now.value < Nanos.last.value) (due : schedule.nextCall.value ≤ now.value) :
    (schedule.called now).callsLeft now < schedule.callsLeft now := by
  have reached : (schedule.called now).callsLeft now ≤ 1 :=
    callsLeft_of_le (le_nextDeadline (Int.le_of_lt positive) schedule.nextCall now)
  by_cases late : schedule.nextCall.value < now.value
  · rw [callsLeft_of_lt late]
    omega
  · have some : schedule.callsLeft now ≠ 0 := by
      rw [Ne, callsLeft_eq_zero]
      omega
    have none : (schedule.called now).callsLeft now = 0 := by
      -- Another call would be due a positive number of periods behind the reading itself.
      apply Decidable.byContradiction
      intro another
      obtain ⟨steps, first, same⟩ := steps_of_callsLeft_called positive inside another
      have forward : 0 < steps * schedule.period.value := Int.mul_pos (by omega) positive
      omega
    omega

end Schedule

namespace Moment

/-- What the clock of the timer of a slot reads, if there is a timer and its clock can be read. -/
def reading? (moment : Moment) (slot : Slot) : Option Nanos :=
  (moment.state.objects.timers (.caller slot)).bind fun timer =>
    (moment.state.readClock timer.clock).toOption

/-- Whether the timer of a slot, if it has a positive period, has one after the moment: it is not
released, and no period of zero takes the place of its own. -/
def keepsPeriodic (moment : Moment) (slot : Slot) : Bool :=
  match moment.timerEvent slot with
  | .exchange period => 0 < period.value
  | .fini => false
  | _ => true

/-- A moment at which the clock of a timer reads nothing but one value, and the timer keeps a
positive period. -/
structure StandsStill (moment : Moment) (slot : Slot) (now : Nanos) : Prop where
  frozen : ∀ reading, moment.reading? slot = some reading → reading = now
  periodic : moment.keepsPeriodic slot = true

theorem StandsStill.read {moment : Moment} {slot : Slot} {now reading : Nanos} {timer : Timer}
    (still : moment.StandsStill slot now)
    (present : moment.state.objects.timers (.caller slot) = some timer)
    (read : moment.state.readClock timer.clock = .ok reading) : reading = now := by
  apply still.frozen
  simp only [reading?, present, Option.bind_some, read]
  rfl

end Moment

/-- The timer of a slot has a positive period and at most so many calls left at a reading. -/
def State.HasCallsLeft (state : State) (slot : Slot) (now : Nanos) (left : Nat) : Prop :=
  ∃ timer, state.objects.timers (.caller slot) = some timer ∧
    0 < timer.schedule.period.value ∧ timer.schedule.callsLeft now ≤ left

namespace State.HasCallsLeft

variable {slot : Slot} {now : Nanos} {left : Nat}

theorem after_quiet {moment : Moment} (had : moment.state.HasCallsLeft slot now left)
    (inside : now.value < Nanos.last.value) (still : moment.StandsStill slot now)
    (quiet : moment.fires slot = false) : moment.after.HasCallsLeft slot now left := by
  obtain ⟨timer, present, positive, few⟩ := had
  have made := moment.timer_after slot
  have periodic := still.periodic
  rw [present] at made
  unfold Moment.keepsPeriodic at periodic
  cases event : moment.timerEvent slot with
  | untouched =>
    rw [event] at made
    exact ⟨timer, made, positive, few⟩
  | init =>
    rw [event] at made
    cases made.1
  | call =>
    rw [Moment.timerEvent_eq_call.mp event] at quiet
    cases quiet
  | reset =>
    rw [event] at made
    obtain ⟨_, found, reading, read, stored⟩ := made
    cases found
    cases still.read present read
    refine ⟨_, stored, positive, ?_⟩
    rw [Schedule.callsLeft_reset positive inside]
    exact Nat.zero_le left
  | cancel =>
    rw [event] at made
    obtain ⟨_, found, stored⟩ := made
    cases found
    exact ⟨_, stored, positive, few⟩
  | exchange period =>
    rw [event] at made periodic
    obtain ⟨_, found, _, stored⟩ := made
    cases found
    exact ⟨_, stored, of_decide_eq_true periodic, few⟩
  | fini =>
    rw [event] at periodic
    cases periodic

theorem after_call {moment : Moment} (had : moment.state.HasCallsLeft slot now left)
    (inside : now.value < Nanos.last.value) (still : moment.StandsStill slot now)
    (fired : moment.fires slot = true) :
    ∃ fewer, fewer < left ∧ moment.after.HasCallsLeft slot now fewer := by
  obtain ⟨timer, present, positive, few⟩ := had
  obtain ⟨reading, read, due, stored⟩ := moment.timer_after_call present fired
  cases still.read present read
  have fewer := Schedule.callsLeft_called positive inside due
  exact ⟨_, Nat.lt_of_lt_of_le fewer few, _, stored, positive, Nat.le_refl _⟩

/-- In a run on a clock that stands still, the calls that go through and those that are left behind
it are no more than were left before. -/
theorem after_run {state : State} (had : state.HasCallsLeft slot now left)
    (inside : now.value < Nanos.last.value) (operations : List Operation)
    (still : ∀ moment ∈ state.moments operations, moment.StandsStill slot now) :
    ∃ fewer, (state.moments operations).countP (·.fires slot) + fewer ≤ left ∧
      (state.after operations).HasCallsLeft slot now fewer := by
  induction operations generalizing state left with
  | nil => exact ⟨left, by simp only [State.moments, List.countP_nil]; omega, had⟩
  | cons operation rest ih =>
    have first := still ⟨state, operation⟩ List.mem_cons_self
    have behind (moment : Moment) (member : moment ∈ (operation.perform state).state.moments rest) :
        moment.StandsStill slot now :=
      still moment (List.mem_cons_of_mem _ member)
    cases fired : Moment.fires ⟨state, operation⟩ slot with
    | false =>
      obtain ⟨fewer, counted, has⟩ := ih (after_quiet had inside first fired) behind
      refine ⟨fewer, ?_, has⟩
      simp only [State.moments, List.countP_cons, fired, Bool.false_eq_true, ↓reduceIte]
      exact counted
    | true =>
      obtain ⟨next, less, hasNext⟩ := after_call had inside first fired
      obtain ⟨fewer, counted, has⟩ := ih hasNext behind
      refine ⟨fewer, ?_, has⟩
      simp only [State.moments, List.countP_cons, fired, ↓reduceIte]
      change List.countP (·.fires slot) ((operation.perform state).state.moments rest) + fewer ≤
        next at counted
      omega

/-- A call that another one follows came late by whole periods. -/
theorem late_of_called_again {moment second : Moment} {operations : List Operation}
    (had : moment.state.HasCallsLeft slot now left) (inside : now.value < Nanos.last.value)
    (still : moment.StandsStill slot now) (fired : moment.fires slot = true)
    (stillBehind : ∀ later ∈ moment.after.moments operations, later.StandsStill slot now)
    (member : second ∈ moment.after.moments operations) (again : second.fires slot = true) :
    ∃ timer steps, moment.state.objects.timers (.caller slot) = some timer ∧ 1 ≤ steps ∧
      now.value = timer.schedule.nextCall.value + steps * timer.schedule.period.value := by
  obtain ⟨timer, present, positive, _⟩ := had
  obtain ⟨reading, read, _, stored⟩ := moment.timer_after_call present fired
  cases still.read present read
  have has : moment.after.HasCallsLeft slot now ((timer.schedule.called now).callsLeft now) :=
    ⟨_, stored, positive, Nat.le_refl _⟩
  obtain ⟨_, counted, _⟩ := has.after_run inside operations stillBehind
  have one : 0 < (moment.after.moments operations).countP (·.fires slot) :=
    List.countP_pos_iff.mpr ⟨second, member, again⟩
  obtain ⟨steps, first, same⟩ := Schedule.steps_of_callsLeft_called positive inside (by omega)
  exact ⟨timer, steps, present, first, same⟩

end State.HasCallsLeft

/-- On a clock that stands still inside the range, at most two calls of a timer with a positive
period go through, also those that its callback makes; and if two do, then whole periods were missed
at the first of them, and the last of these periods had just ended. -/
theorem burst_on_still_clock {state : State} {slot : Slot} {timer : Timer} {now : Nanos}
    (present : state.objects.timers (.caller slot) = some timer)
    (positive : 0 < timer.schedule.period.value) (inside : now.value < Nanos.last.value)
    (depth : Nat) (operations : List Operation)
    (still : ∀ moment ∈ state.moments (state.trace depth operations),
      moment.StandsStill slot now) :
    (Reply.recordsEach (runEach (run depth) operations state).1).countP (callsTimer slot) ≤ 2 ∧
    ∀ earlier first between second later,
      state.moments (state.trace depth operations) =
        earlier ++ first :: (between ++ second :: later) →
      first.fires slot = true → second.fires slot = true →
        ∃ found steps, first.state.objects.timers (.caller slot) = some found ∧ 1 ≤ steps ∧
          now.value = found.schedule.nextCall.value + steps * found.schedule.period.value := by
  have had : state.HasCallsLeft slot now 2 :=
    ⟨timer, present, positive, timer.schedule.callsLeft_le_two now⟩
  constructor
  · obtain ⟨fewer, counted, _⟩ := had.after_run inside _ still
    rw [records_runEach, List.countP_map]
    exact Nat.le_trans (Nat.le_add_right _ fewer) counted
  · intro earlier first between second later split fired another
    obtain ⟨before, found, behind⟩ := State.moments_split_at split
    rw [split] at still
    have stillBefore (moment : Moment)
        (member : moment ∈ state.moments (earlier.map Moment.operation)) :
        moment.StandsStill slot now :=
      still moment (List.mem_append_left _ (before ▸ member))
    have stillBehind (moment : Moment) (member : moment ∈ first :: (between ++ second :: later)) :
        moment.StandsStill slot now :=
      still moment (List.mem_append_right _ member)
    obtain ⟨left, _, has⟩ := had.after_run inside _ stillBefore
    rw [← found] at has
    apply has.late_of_called_again inside (stillBehind first List.mem_cons_self) fired
      _ (behind ▸ List.mem_append_right between List.mem_cons_self) another
    rw [← behind]
    exact fun moment member => stillBehind moment (List.mem_cons_of_mem first member)

/-- A timer with a period of 10 that calls itself once more, due since 10, at the reading 30. -/
def stateWithLateTimer : State :=
  (initOfTimer.perform stateBeforeTimer).state.after
    [.clock (some 2) (.setOverride (.clamp 30))]

/-- Whatever may bring a deadline nearer, each time followed by a call. -/
def burst : List Operation :=
  [.timer (some 1) .call, .timer (some 1) (.exchangePeriod (.clamp 5) true), .timer (some 1) .call,
    .timer (some 1) .cancel, .timer (some 1) .reset, .timer (some 1) .call]

/-- The first call and the one in its callback go through, as the second missed period ends at 30;
no other call does. -/
theorem burst_on_still_clock_in_callback :
    (Reply.recordsEach (runEach (run 3) burst stateWithLateTimer).1).countP (callsTimer 1) = 2 ∧
      ∃ steps : Int, 1 ≤ steps ∧ (30 : Int) = 10 + steps * 10 := by
  have still : (stateWithLateTimer.moments (stateWithLateTimer.trace 3 burst)).all
      (fun moment => moment.reading? 1 = some (.clamp 30) && moment.keepsPeriodic 1) = true := by
    rfl
  have bounded := burst_on_still_clock
    (show stateWithLateTimer.objects.timers (.caller 1) = some _ from rfl) (by decide)
    (show (Nanos.clamp 30).value < Nanos.last.value by decide) 3 burst fun moment member => by
      have known := List.all_eq_true.mp still moment member
      rw [Bool.and_eq_true, decide_eq_true_eq] at known
      exact ⟨fun reading read => Option.some.inj (read.symm.trans known.1), known.2⟩
  refine ⟨by rfl, ?_⟩
  obtain ⟨found, steps, there, first, same⟩ := bounded.2 [] _ [] _ _ rfl rfl rfl
  cases there
  exact ⟨steps, first, same⟩

end RosClient
