import RosClient.Proofs.Verdict.Timer

namespace RosClient

/-- The least positive number of periods that takes a deadline to a reading or past it. -/
structure ReachesFirst (deadline period now steps : Int) : Prop where
  positive : 1 ≤ steps
  reaches : now ≤ deadline + steps * period
  least : steps = 1 ∨ deadline + (steps - 1) * period < now

theorem reachesFirst_one {deadline period now : Int} (soon : now ≤ deadline + period) :
    ReachesFirst deadline period now 1 :=
  ⟨Int.le_refl 1, by omega, Or.inl rfl⟩

theorem missed_periods {period : Int} (positive : 0 < period) (behind : Int) :
    behind ≤ (1 + (behind - 1) / period) * period ∧
      (1 + (behind - 1) / period) * period < behind + period := by
  have lower := Int.ediv_mul_le (behind - 1) (Int.ne_of_gt positive)
  have upper := Int.lt_ediv_add_one_mul_self (behind - 1) positive
  rw [Int.add_comm 1]
  refine ⟨by omega, ?_⟩
  rw [Int.add_mul]
  omega

theorem reachesFirst_of_behind {deadline period now : Int} (positive : 0 < period)
    (behind : deadline + period < now) :
    ReachesFirst deadline period now (1 + (1 + (now - (deadline + period) - 1) / period)) := by
  have missed : 0 ≤ (now - (deadline + period) - 1) / period :=
    Int.ediv_nonneg (by omega) (by omega)
  obtain ⟨reached, within⟩ := missed_periods positive (now - (deadline + period))
  generalize (now - (deadline + period) - 1) / period = count at missed reached within ⊢
  refine ⟨by omega, ?_, Or.inr ?_⟩
  · rw [Int.add_mul 1 (1 + count)]
    omega
  · rw [show 1 + (1 + count) - 1 = 1 + count by omega]
    omega

theorem nextDeadline_of_le {deadline period now : Nanos}
    (soon : now.value ≤ (deadline.add period).value) :
    nextDeadline deadline period now = deadline.add period := by
  simp only [nextDeadline, soon, ↓reduceIte]

theorem nextDeadline_of_lt {deadline period now : Nanos} (nonzero : period.value ≠ 0)
    (late : (deadline.add period).value < now.value) :
    nextDeadline deadline period now = .clamp ((deadline.add period).value +
      (1 + (now.value - (deadline.add period).value - 1) / period.value) * period.value) := by
  have behind : ¬ now.value ≤ (deadline.add period).value := by omega
  simp only [nextDeadline, behind, nonzero, ↓reduceIte]

/-- A call moves the deadline by the least number of periods that reaches the reading. -/
theorem nextDeadline_steps (deadline period now : Nanos) (positive : 0 < period.value) :
    ∃ steps, ReachesFirst deadline.value period.value now.value steps ∧
      (nextDeadline deadline period now).value =
        min (deadline.value + steps * period.value) Nanos.last.value := by
  have lower := deadline.least
  have top := now.greatest
  have sum := Nanos.value_add deadline period
  rw [Nanos.value_last]
  by_cases soon : now.value ≤ (deadline.add period).value
  · refine ⟨1, reachesFirst_one (by omega), ?_⟩
    rw [nextDeadline_of_le soon]
    omega
  · have whole : (deadline.add period).value = deadline.value + period.value := by omega
    have first := reachesFirst_of_behind positive
      (show deadline.value + period.value < now.value by omega)
    refine ⟨_, first, ?_⟩
    have reached := first.reaches
    rw [Int.add_mul 1 (1 + _)] at reached ⊢
    rw [nextDeadline_of_lt (by omega) (by omega), Nanos.value_clamp, whole]
    omega

theorem value_nextDeadline_of_zero {period : Nanos} (zero : period.value = 0)
    (deadline now : Nanos) :
    (nextDeadline deadline period now).value = max deadline.value now.value := by
  have same : deadline.add period = deadline := by
    rw [Nanos.add, zero, Int.add_zero, Nanos.clamp_value]
  by_cases soon : now.value ≤ (deadline.add period).value
  · rw [nextDeadline_of_le soon]
    rw [same] at soon ⊢
    omega
  · simp only [nextDeadline, soon, zero, ↓reduceIte]
    rw [same] at soon
    omega

theorem le_nextDeadline {period : Nanos} (nonnegative : 0 ≤ period.value) (deadline now : Nanos) :
    now.value ≤ (nextDeadline deadline period now).value := by
  by_cases zero : period.value = 0
  · rw [value_nextDeadline_of_zero zero]
    omega
  · obtain ⟨steps, first, moved⟩ := nextDeadline_steps deadline period now (by omega)
    have reached := first.reaches
    have top := now.greatest
    rw [moved, Nanos.value_last]
    omega

/-- A deadline that stands at the grid point with the given number: so many periods after the
start, or at the end of the range if the point lies beyond it. -/
def AtGridPoint (start period point : Int) (deadline : Nanos) : Prop :=
  deadline.value = min (start + point * period) Nanos.last.value

theorem atGridPoint_start (start period : Nanos) (positive : 0 < period.value) :
    AtGridPoint start.value period.value 1 (start.add period) := by
  have lower := start.least
  have sum := Nanos.value_add start period
  unfold AtGridPoint
  rw [Nanos.value_last]
  omega

/-- The end of the range is behind no reading, so it takes as many periods to reach the reading from
there as from any point beyond. -/
theorem ReachesFirst.of_min {point period steps : Int} {now : Nanos} (positive : 0 < period)
    (first : ReachesFirst (min point Nanos.last.value) period now.value steps) :
    ReachesFirst point period now.value steps := by
  have top := now.greatest
  rcases Int.le_total point Nanos.last.value with inside | beyond
  · rwa [Int.min_eq_left inside] at first
  · rw [Int.min_eq_right beyond] at first
    rw [Nanos.value_last] at first beyond
    have one : steps = 1 := by
      refine first.least.resolve_right fun behind => ?_
      have backward : 0 ≤ (steps - 1) * period :=
        Int.mul_nonneg (by have := first.positive; omega) (Int.le_of_lt positive)
      omega
    rw [one]
    exact reachesFirst_one (by omega)

theorem AtGridPoint.nextDeadline {start point : Int} {deadline period : Nanos}
    (positive : 0 < period.value) (standing : AtGridPoint start period.value point deadline)
    (now : Nanos) :
    ∃ steps, ReachesFirst (start + point * period.value) period.value now.value steps ∧
      AtGridPoint start period.value (point + steps) (nextDeadline deadline period now) := by
  obtain ⟨steps, first, moved⟩ := nextDeadline_steps deadline period now positive
  have forward : 0 ≤ steps * period.value :=
    Int.mul_nonneg (by have := first.positive; omega) (Int.le_of_lt positive)
  unfold AtGridPoint at standing ⊢
  refine ⟨steps, ?_, ?_⟩
  · rw [standing] at first
    exact first.of_min positive
  · rw [moved, Int.add_mul]
    omega

theorem lt_nextDeadline {deadline period : Nanos} (positive : 0 < period.value) (now : Nanos)
    (inside : deadline.value < Nanos.last.value) :
    deadline.value < (RosClient.nextDeadline deadline period now).value := by
  obtain ⟨steps, first, moved⟩ := nextDeadline_steps deadline period now positive
  have forward : 1 * period.value ≤ steps * period.value :=
    Int.mul_le_mul_of_nonneg_right first.positive (Int.le_of_lt positive)
  rw [moved]
  omega

theorem Schedule.call_eq_ok {schedule after : Schedule} {now elapsed : Nanos} :
    schedule.call now = .ok (elapsed, after) ↔
      0 ≤ now.value ∧ schedule.nextCall.value ≤ now.value ∧
        now.sub schedule.lastCall = elapsed ∧
        { schedule with
          lastCall := now
          nextCall := nextDeadline schedule.nextCall schedule.period now } = after := by
  unfold Schedule.call
  split
  · next negative =>
    simp only [reduceCtorEq, false_iff]
    omega
  · split
    · next early =>
      simp only [reduceCtorEq, false_iff]
      omega
    · next due nonnegative =>
      simp only [Except.ok.injEq, Prod.mk.injEq]
      constructor
      · intro same
        exact ⟨by omega, by omega, same⟩
      · intro ⟨_, _, same⟩
        exact same

theorem Schedule.call_of_early {schedule : Schedule} {now : Nanos} (nonnegative : 0 ≤ now.value)
    (early : now.value < schedule.nextCall.value) :
    schedule.call now = .error (.timerNotReady (schedule.untilNextCall now)) := by
  simp only [Schedule.call, Int.not_lt.mpr nonnegative, early, ↓reduceIte, untilNextCall]

theorem Schedule.isDue_iff_untilNextCall {schedule : Schedule} {now : Nanos} :
    schedule.isDue now = true ↔ (schedule.untilNextCall now).value ≤ 0 := by
  simp only [isDue, untilNextCall, Nanos.value_sub, decide_eq_true_eq]
  omega

end RosClient
