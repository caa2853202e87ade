import Mathlib.Order.Bounds.Basic
import RosClient.Proofs.Timer.Deadline

namespace RosClient

/-- Adds a period once, and again as long as the deadline is behind the reading. -/
def addPeriods (deadline period now : Int) (positive : 0 < period) : Int :=
  if now ≤ deadline + period then deadline + period
  else addPeriods (deadline + period) period now positive
termination_by (now - deadline).toNat
decreasing_by omega

section

variable {deadline period now steps : Int}

/-- The numbers of periods that take a deadline to a reading or past it. -/
def reachingSteps (deadline period now : Int) : Set Int :=
  {steps | 1 ≤ steps ∧ now ≤ deadline + steps * period}

theorem ReachesFirst.isLeast (positive : 0 < period)
    (first : ReachesFirst deadline period now steps) :
    IsLeast (reachingSteps deadline period now) steps := by
  refine ⟨⟨first.positive, first.reaches⟩, ?_⟩
  rintro other ⟨atLeastOne, reaches⟩
  rcases first.least with rfl | before
  · exact atLeastOne
  · have further : (steps - 1) * period < other * period := by omega
    have ahead : steps - 1 < other := Int.lt_of_mul_lt_mul_right further (Int.le_of_lt positive)
    omega

/-- The points of a grid behind the given one that are at a reading or past it. -/
def laterPoints (start period point now : Int) : Set Int :=
  {later | point < later ∧ now ≤ start + later * period}

theorem ReachesFirst.isLeast_laterPoints {start point : Int} (positive : 0 < period)
    (first : ReachesFirst (start + point * period) period now steps) :
    IsLeast (laterPoints start period point now) (point + steps) := by
  obtain ⟨⟨above, reaches⟩, least⟩ := first.isLeast positive
  refine ⟨⟨by omega, by rw [Int.add_mul]; omega⟩, ?_⟩
  rintro other ⟨further, reachesToo⟩
  have counted : other - point ∈ reachingSteps (start + point * period) period now := by
    refine ⟨by omega, ?_⟩
    rw [Int.sub_mul]
    omega
  have fewer := least counted
  omega

theorem ReachesFirst.next (first : ReachesFirst deadline period now steps)
    (behind : ¬ now ≤ deadline + period) :
    ReachesFirst (deadline + period) period now (steps - 1) := by
  have further : steps ≠ 1 := by
    rintro rfl
    have reaches := first.reaches
    omega
  have reaches := first.reaches
  have above := first.positive
  rw [show steps = 1 + (steps - 1) by omega, Int.add_mul] at reaches
  refine ⟨by omega, by omega, ?_⟩
  rcases first.least with one | before
  · exact absurd one further
  · rw [show steps - 1 = 1 + (steps - 1 - 1) by omega, Int.add_mul] at before
    exact Or.inr (by omega)

theorem addPeriods_eq (positive : 0 < period) (first : ReachesFirst deadline period now steps) :
    addPeriods deadline period now positive = deadline + steps * period := by
  fun_induction addPeriods deadline period now positive generalizing steps with
  | case1 deadline soon =>
    have one := (reachesFirst_one soon).isLeast positive
    rw [(first.isLeast positive).unique one, Int.one_mul]
  | case2 deadline behind ih =>
    rw [ih (first.next behind), Int.sub_mul]
    omega

end

namespace Wide

/-- A number, if 128 bits hold it and its sign. -/
def fit? (n : Int) : Option Int :=
  if -170141183460469231731687303715884105728 ≤ n ∧
      n ≤ 170141183460469231731687303715884105727 then some n
  else none

/-- The quotient without its fraction, if there is one. -/
def div? (a b : Int) : Option Int :=
  if b = 0 then none else fit? (a.tdiv b)

/-- The number of nanoseconds, or the last of the range in place of a number beyond it. -/
def narrow (n : Int) : Nanos :=
  if h : -9223372036854775808 ≤ n ∧ n ≤ 9223372036854775807 then ⟨n, h.1, h.2⟩ else .last

theorem fit?_bind {α : Type} {n : Int} (lower : -170141183460469231731687303715884105728 ≤ n)
    (upper : n ≤ 170141183460469231731687303715884105727) (next : Int → Option α) :
    fit? n >>= next = next n := by
  rw [fit?, if_pos ⟨lower, upper⟩]
  rfl

theorem div?_bind {α : Type} {a b : Int} (nonnegative : 0 ≤ a) (positive : 0 < b)
    (upper : a ≤ 170141183460469231731687303715884105727) (next : Int → Option α) :
    div? a b >>= next = next (a / b) := by
  have low : 0 ≤ a / b := Int.ediv_nonneg nonnegative (Int.le_of_lt positive)
  have high : a / b ≤ a := Int.ediv_le_self b nonnegative
  rw [div?, if_neg (Int.ne_of_gt positive), Int.tdiv_eq_ediv_of_nonneg nonnegative,
    fit?_bind (by omega) (by omega)]

theorem narrow_of_least {n : Int} (lower : -9223372036854775808 ≤ n) : narrow n = .clamp n := by
  apply Nanos.ext
  rw [Nanos.value_clamp_of_least lower, narrow]
  split
  · next inside => exact (Int.min_eq_left inside.2).symm
  · next outside =>
    rw [Nanos.value_last]
    omega

end Wide

/-- `nextDeadline` step by step as it is carried out in 128 bits. There is no result if one of the
steps has none. -/
def nextDeadlineIn128? (deadline period now : Nanos) : Option Nanos :=
  let next := deadline.add period
  if now.value ≤ next.value then some next
  else if period.value = 0 then some now
  else do
    let behind ← Wide.fit? (now.value - next.value)
    let further ← Wide.fit? (behind - 1)
    let missed ← Wide.div? further period.value
    let periods ← Wide.fit? (1 + missed)
    let distance ← Wide.fit? (periods * period.value)
    let reached ← Wide.fit? (next.value + distance)
    return Wide.narrow reached

theorem nextDeadlineIn128?_eq {period : Nanos} (nonnegative : 0 ≤ period.value)
    (deadline now : Nanos) :
    nextDeadlineIn128? deadline period now = some (nextDeadline deadline period now) := by
  by_cases soon : now.value ≤ (deadline.add period).value
  · rw [nextDeadline_of_le soon]
    exact if_pos soon
  by_cases zero : period.value = 0
  · simp only [nextDeadlineIn128?, nextDeadline, soon, zero, ↓reduceIte]
  · have bottom := (deadline.add period).least
    have top := now.greatest
    have long := period.greatest
    have behind : 0 ≤ now.value - (deadline.add period).value - 1 := by omega
    have missed := Int.ediv_nonneg behind nonnegative
    have fewer := Int.ediv_le_self period.value behind
    -- The distance passes the reading by less than a period, so it takes little more than 64 bits.
    obtain ⟨reached, within⟩ := missed_periods (show 0 < period.value by omega)
      (now.value - (deadline.add period).value)
    rw [nextDeadline_of_lt zero (Int.not_le.mp soon)]
    simp only [nextDeadlineIn128?, soon, zero, ↓reduceIte]
    rw [Wide.fit?_bind (by omega) (by omega), Wide.fit?_bind (by omega) (by omega),
      Wide.div?_bind behind (by omega) (by omega), Wide.fit?_bind (by omega) (by omega),
      Wide.fit?_bind (by omega) (by omega), Wide.fit?_bind (by omega) (by omega),
      Wide.narrow_of_least (by omega)]
    rfl

/-- The deadline after a call is the least point of the grid that is not behind the reading, where a
loop over the periods would stop, or the end of the range in place of a point beyond it. Without a
period it is the later one of the deadline and the reading. It is computed without an overflow of
128 bits and without a division by zero, and it is never behind the reading. -/
theorem nextDeadline_least_point (deadline period now : Nanos) (nonnegative : 0 ≤ period.value) :
    nextDeadlineIn128? deadline period now = some (nextDeadline deadline period now) ∧
      now.value ≤ (nextDeadline deadline period now).value ∧
      (period.value = 0 →
        (nextDeadline deadline period now).value = max deadline.value now.value) ∧
      ∀ positive : 0 < period.value, ∃ steps,
        IsLeast (reachingSteps deadline.value period.value now.value) steps ∧
        addPeriods deadline.value period.value now.value positive =
          deadline.value + steps * period.value ∧
        (nextDeadline deadline period now).value =
          min Nanos.last.value (deadline.value + steps * period.value) ∧
        (1 < steps → (nextDeadline deadline period now).value < now.value + period.value) := by
  refine ⟨nextDeadlineIn128?_eq nonnegative deadline now, le_nextDeadline nonnegative deadline now,
    fun zero => value_nextDeadline_of_zero zero deadline now, fun positive => ?_⟩
  obtain ⟨steps, first, moved⟩ := nextDeadline_steps deadline period now positive
  refine ⟨steps, first.isLeast positive, addPeriods_eq positive first, ?_, fun several => ?_⟩
  · rw [moved, Int.min_comm]
  · rcases first.least with rfl | before
    · exact absurd several (Int.lt_irrefl 1)
    · rw [Int.sub_mul, Int.one_mul] at before
      rw [moved]
      omega

/-- From the least deadline to the last reading it is farther than 64 bits tell, and with a period
of four nanoseconds the first point that reaches it lies beyond the range. -/
theorem nextDeadline_least_point_across :
    0 ≤ (Nanos.clamp 4).value ∧
      nextDeadlineIn128? (.clamp (-9223372036854775808)) (.clamp 4) .last = some .last ∧
      (nextDeadline (.clamp (-9223372036854775808)) (.clamp 4) .last).value =
        Nanos.last.value := by
  have nonnegative : 0 ≤ (Nanos.clamp 4).value := by decide
  obtain ⟨computed, _, _, points⟩ := nextDeadline_least_point (.clamp (-9223372036854775808))
    (.clamp 4) .last nonnegative
  obtain ⟨steps, ⟨reached, _⟩, _, moved, _⟩ := points (by decide)
  have last : (nextDeadline (.clamp (-9223372036854775808)) (.clamp 4) .last).value =
      Nanos.last.value :=
    moved.trans (Int.min_eq_left reached.2)
  rw [Nanos.ext last] at computed
  exact ⟨nonnegative, computed, last⟩

end RosClient
