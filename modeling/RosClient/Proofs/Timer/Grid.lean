import RosClient.Proofs.Timer.Event
import RosClient.Proofs.Timer.LeastPoint

namespace RosClient

/-- Whether an operation is a call of the timer of a slot, and was answered `ok`. -/
def callsTimer (slot : Slot) : Operation × Answer → Bool
  | (.timer (some target) .call, answer) => target = slot && answer.isOk
  | _ => false

/-- Whether a moment is a call of the timer of a slot that goes through. -/
def Moment.fires (moment : Moment) (slot : Slot) : Bool :=
  callsTimer slot moment.record

theorem Operation.timerEvent_eq_call {operation : Operation} {slot : Slot} :
    operation.timerEvent slot = .call ↔ operation = .timer (some slot) .call := by
  unfold Operation.timerEvent
  split
  · split <;> simp
  · next target request =>
    split
    · next same =>
      subst same
      cases request <;> simp [TimerCall.event]
    · next other => simp [other]
  · simp_all

theorem callsTimer_eq_true {slot : Slot} {operation : Operation} {answer : Answer} :
    callsTimer slot (operation, answer) = true ↔
      operation = .timer (some slot) .call ∧ answer.isOk = true := by
  unfold callsTimer
  split
  · simp_all
  · simp_all

theorem Moment.timerEvent_eq_call {moment : Moment} {slot : Slot} :
    moment.timerEvent slot = .call ↔ moment.fires slot = true := by
  unfold Moment.timerEvent Moment.fires Moment.record
  rw [callsTimer_eq_true, ← Operation.timerEvent_eq_call]
  split
  · simp_all
  · simp_all

/-- Whether a moment gives the timer of a slot another grid: a reset, an exchange of the period or a
release that goes through. -/
def Moment.rearms (moment : Moment) (slot : Slot) : Bool :=
  match moment.timerEvent slot with
  | .reset => true
  | .exchange _ => true
  | .fini => true
  | _ => false

/-- How moments move the timer of a slot along a grid, from one point to another: a call that goes
through takes it to the first later point that is at the reading or past it, and nothing else moves
it. -/
inductive MovesAlong (slot : Slot) (clock : Place) (start period : Nanos) :
    Int → List Moment → Int → Prop where
  | done (point : Int) : MovesAlong slot clock start period point [] point
  | quiet {point last : Int} {moment : Moment} {rest : List Moment}
      (quiet : moment.fires slot = false)
      (behind : MovesAlong slot clock start period point rest last) :
      MovesAlong slot clock start period point (moment :: rest) last
  | call {point later last : Int} {now : Nanos} {moment : Moment} {rest : List Moment}
      (fired : moment.fires slot = true) (read : moment.state.readClock clock = .ok now)
      (first : IsLeast (laterPoints start.value period.value point now.value) later)
      (behind : MovesAlong slot clock start period later rest last) :
      MovesAlong slot clock start period point (moment :: rest) last

/-- The timer of a slot is on a clock and stands at a point of the grid of a start and a period. -/
def State.StandsAt (state : State) (slot : Slot) (clock : Place) (start period : Nanos)
    (point : Int) : Prop :=
  ∃ timer, state.objects.timers (.caller slot) = some timer ∧ timer.clock = clock ∧
    timer.schedule.period = period ∧
    AtGridPoint start.value period.value point timer.schedule.nextCall

variable {slot : Slot} {clock : Place} {start period : Nanos} {point : Int}

/-- Moments move a timer to one point only. -/
theorem MovesAlong.unique {moments : List Moment} {last other : Int}
    (one : MovesAlong slot clock start period point moments last)
    (another : MovesAlong slot clock start period point moments other) : other = last := by
  induction one with
  | done =>
    cases another
    rfl
  | quiet quiet _ ih =>
    cases another with
    | quiet _ behind => exact ih behind
    | call fired => cases quiet.symm.trans fired
  | call fired read first _ ih =>
    cases another with
    | quiet quiet => cases quiet.symm.trans fired
    | call _ found firstToo behind =>
      cases read.symm.trans found
      cases first.unique firstToo
      exact ih behind

theorem MovesAlong.le {moments : List Moment} {last : Int}
    (moved : MovesAlong slot clock start period point moments last) : point ≤ last := by
  induction moved with
  | done => exact Int.le_refl _
  | quiet _ _ ih => exact ih
  | call _ _ first _ ih => exact (Int.le_of_lt first.1.1).trans ih

theorem State.StandsAt.after_quiet (moment : Moment)
    (standing : moment.state.StandsAt slot clock start period point)
    (quiet : moment.fires slot = false) (undisturbed : moment.rearms slot = false) :
    moment.after.StandsAt slot clock start period point := by
  obtain ⟨timer, present, onClock, same, stands⟩ := standing
  have made := moment.timer_after slot
  rw [present] at made
  unfold Moment.rearms at undisturbed
  cases event : moment.timerEvent slot with
  | untouched =>
    rw [event] at made
    exact ⟨timer, made, onClock, same, stands⟩
  | init =>
    rw [event] at made
    cases made.1
  | cancel =>
    rw [event] at made
    obtain ⟨_, found, left⟩ := made
    cases found
    exact ⟨_, left, onClock, same, stands⟩
  | call =>
    rw [Moment.timerEvent_eq_call.mp event] at quiet
    cases quiet
  | reset | exchange | fini => simp [event] at undisturbed

/-- A call that goes through was due by the clock, and moves the deadline of its timer on. -/
theorem Moment.timer_after_call {moment : Moment} {timer : Timer}
    (present : moment.state.objects.timers (.caller slot) = some timer)
    (fired : moment.fires slot = true) :
    ∃ now, moment.state.readClock timer.clock = .ok now ∧
      timer.schedule.nextCall.value ≤ now.value ∧
      moment.after.objects.timers (.caller slot) = some { timer with
        schedule := { timer.schedule with
          lastCall := now
          nextCall := nextDeadline timer.schedule.nextCall timer.schedule.period now } } := by
  have made := moment.timer_after slot
  rw [present, Moment.timerEvent_eq_call.mpr fired] at made
  obtain ⟨_, found, _, now, read, elapsed, schedule, called, left⟩ := made
  cases found
  obtain ⟨_, due, _, rfl⟩ := Schedule.call_eq_ok.mp called
  exact ⟨now, read, due, left⟩

/-- A call that goes through finds a reading at or past the point, and moves the timer on to the
first later point that is not behind the reading. -/
theorem State.StandsAt.after_call (moment : Moment) (positive : 0 < period.value)
    (standing : moment.state.StandsAt slot clock start period point)
    (fired : moment.fires slot = true) :
    ∃ now, moment.state.readClock clock = .ok now ∧
      min (start.value + point * period.value) Nanos.last.value ≤ now.value ∧
      ∃ later, IsLeast (laterPoints start.value period.value point now.value) later ∧
        moment.after.StandsAt slot clock start period later := by
  obtain ⟨timer, present, rfl, rfl, stands⟩ := standing
  obtain ⟨now, read, due, left⟩ := moment.timer_after_call present fired
  obtain ⟨steps, first, stood⟩ := stands.nextDeadline positive now
  exact ⟨now, read, stands ▸ due, _, first.isLeast_laterPoints positive, _, left, rfl, rfl, stood⟩

theorem State.StandsAt.lt_after_call {moment : Moment} (positive : 0 < period.value)
    (standing : moment.state.StandsAt slot clock start period point)
    (fired : moment.fires slot = true) :
    ∃ before after, moment.state.objects.timers (.caller slot) = some before ∧
      moment.after.objects.timers (.caller slot) = some after ∧
      (before.schedule.nextCall.value < Nanos.last.value →
        before.schedule.nextCall.value < after.schedule.nextCall.value) := by
  obtain ⟨timer, present, _, rfl, _⟩ := standing
  obtain ⟨now, _, _, left⟩ := moment.timer_after_call present fired
  exact ⟨timer, _, present, left, lt_nextDeadline positive now⟩

/-- After every undisturbed run the timer stands at the point to which its calls have moved it. -/
theorem State.StandsAt.after_run {state : State} (positive : 0 < period.value)
    (standing : state.StandsAt slot clock start period point) (operations : List Operation)
    (undisturbed : ∀ moment ∈ state.moments operations, moment.rearms slot = false) :
    ∃ last, MovesAlong slot clock start period point (state.moments operations) last ∧
      (state.after operations).StandsAt slot clock start period last := by
  induction operations generalizing state point with
  | nil => exact ⟨point, .done point, standing⟩
  | cons operation rest ih =>
    have rearmed := undisturbed ⟨state, operation⟩ List.mem_cons_self
    have behind (moment : Moment) (member : moment ∈ (operation.perform state).state.moments rest) :
        moment.rearms slot = false :=
      undisturbed moment (List.mem_cons_of_mem _ member)
    cases fired : Moment.fires ⟨state, operation⟩ slot with
    | false =>
      have stood := State.StandsAt.after_quiet ⟨state, operation⟩ standing fired rearmed
      obtain ⟨last, moved, stands⟩ := ih stood behind
      exact ⟨last, .quiet fired moved, stands⟩
    | true =>
      obtain ⟨_, read, _, later, first, stood⟩ :=
        State.StandsAt.after_call ⟨state, operation⟩ positive standing fired
      obtain ⟨last, moved, stands⟩ := ih stood behind
      exact ⟨last, .call fired read first moved, stands⟩

/-- With readings up to a bound inside the range, calls go through at most once for each point up to
the bound, from the point at which the timer stands. -/
theorem State.StandsAt.count_fires_le {state : State} (positive : 0 < period.value)
    (standing : state.StandsAt slot clock start period point) (operations : List Operation)
    (undisturbed : ∀ moment ∈ state.moments operations, moment.rearms slot = false)
    {bound : Int} (inside : bound < Nanos.last.value)
    (bounded : ∀ moment ∈ state.moments operations, moment.fires slot = true →
      ∀ now, moment.state.readClock clock = .ok now → now.value ≤ bound) :
    ((state.moments operations).countP (·.fires slot) : Int) ≤
      max 0 ((bound - start.value) / period.value - (point - 1)) := by
  induction operations generalizing state point with
  | nil => simp only [State.moments, List.countP_nil, Int.natCast_zero]; omega
  | cons operation rest ih =>
    have rearmed := undisturbed ⟨state, operation⟩ List.mem_cons_self
    have behind (moment : Moment) (member : moment ∈ (operation.perform state).state.moments rest) :
        moment.rearms slot = false :=
      undisturbed moment (List.mem_cons_of_mem _ member)
    have boundedBehind (moment : Moment)
        (member : moment ∈ (operation.perform state).state.moments rest) :=
      bounded moment (List.mem_cons_of_mem _ member)
    cases fired : Moment.fires ⟨state, operation⟩ slot with
    | false =>
      have stood := State.StandsAt.after_quiet ⟨state, operation⟩ standing fired rearmed
      simp only [State.moments, List.countP_cons, fired]
      exact ih stood behind boundedBehind
    | true =>
      obtain ⟨now, read, due, later, ⟨⟨further, _⟩, _⟩, stood⟩ :=
        State.StandsAt.after_call ⟨state, operation⟩ positive standing fired
      have below := bounded ⟨state, operation⟩ List.mem_cons_self fired now read
      have points : point ≤ (bound - start.value) / period.value :=
        (Int.le_ediv_iff_mul_le positive).mpr (by omega)
      have remaining := ih stood behind boundedBehind
      simp only [State.moments, List.countP_cons, fired, ↓reduceIte, Int.natCast_add,
        Int.natCast_one]
      change ((List.countP (·.fires slot) ((operation.perform state).state.moments rest) : Nat) :
        Int) ≤ _ at remaining
      omega

theorem standsAt_initTimer {state armed : State} {slot clock : Slot} {context : Option Slot}
    {period start : Nanos} {callback : Option Nat} {body : Nanos → List Operation}
    (initialised : (Operation.initTimer (some slot) (some clock) context period callback
      body).perform state = ⟨.status .ok none, armed, []⟩)
    (read : state.readClock (.caller clock) = .ok start) (positive : 0 < period.value) :
    armed.StandsAt slot (.caller clock) start period 1 := by
  have made := Moment.timer_after
    ⟨state, .initTimer (some slot) (some clock) context period callback body⟩ slot
  simp only [Moment.timerEvent, Moment.answer, Moment.after, Moment.effect, initialised,
    Operation.timerEvent, ↓reduceIte] at made
  obtain ⟨_, _, now, found, stored⟩ := made
  rw [read] at found
  cases found
  exact ⟨_, stored, rfl, rfl, atGridPoint_start start period positive⟩

/-- In a run that neither resets a timer nor releases it nor exchanges its period, the deadline
always stands at one point of the grid that starts at the reading of its initialisation: the first
one at the beginning, and after every call that goes through the first later one that is at the
reading or past it. It is at the end of the range only in place of that point, if the point lies
beyond. A call that goes through moves it on unless it is at the end of the range, and with readings
up to a bound the calls that go through are no more than the periods up to the bound. -/
theorem timer_keeps_grid {state armed : State} {slot clock : Slot} {context : Option Slot}
    {period start : Nanos} {callback : Option Nat} {body : Nanos → List Operation}
    (initialised : (Operation.initTimer (some slot) (some clock) context period callback
      body).perform state = ⟨.status .ok none, armed, []⟩)
    (read : state.readClock (.caller clock) = .ok start) (positive : 0 < period.value)
    (depth : Nat) (operations : List Operation)
    (undisturbed : ∀ moment ∈ armed.moments (armed.trace depth operations),
      moment.rearms slot = false) :
    (∀ first rest, armed.trace depth operations = first ++ rest →
      ∃ point, 1 ≤ point ∧
        (∀ other, MovesAlong slot (.caller clock) start period 1 (armed.moments first) other ↔
          other = point) ∧
        ∃ timer, (armed.after first).objects.timers (.caller slot) = some timer ∧
          timer.schedule.nextCall.value =
            min (start.value + point * period.value) Nanos.last.value) ∧
    (∀ moment ∈ armed.moments (armed.trace depth operations), moment.fires slot = true →
      ∃ before after, moment.state.objects.timers (.caller slot) = some before ∧
        moment.after.objects.timers (.caller slot) = some after ∧
        (before.schedule.nextCall.value < Nanos.last.value →
          before.schedule.nextCall.value < after.schedule.nextCall.value)) ∧
    (∀ bound, bound < Nanos.last.value →
      (∀ moment ∈ armed.moments (armed.trace depth operations), moment.fires slot = true →
        ∀ now, moment.state.readClock (.caller clock) = .ok now → now.value ≤ bound) →
      ((Reply.recordsEach (runEach (run depth) operations armed).1).countP
        (callsTimer slot) : Int) ≤ max 0 ((bound - start.value) / period.value)) := by
  have standing := standsAt_initTimer initialised read positive
  have reached (first rest : List Operation)
      (split : armed.trace depth operations = first ++ rest) :
      ∃ point, MovesAlong slot (.caller clock) start period 1 (armed.moments first) point ∧
        (armed.after first).StandsAt slot (.caller clock) start period point := by
    apply standing.after_run positive
    intro moment member
    apply undisturbed moment
    rw [split, State.moments_append]
    exact List.mem_append_left _ member
  refine ⟨?_, ?_, ?_⟩
  · intro first rest split
    obtain ⟨point, moved, timer, present, _, rfl, stands⟩ := reached first rest split
    exact ⟨point, moved.le, fun other => ⟨moved.unique, fun same => same ▸ moved⟩, timer, present,
      stands⟩
  · intro moment member fired
    obtain ⟨first, rest, split, found⟩ := State.mem_moments_iff.mp member
    obtain ⟨point, _, stood⟩ := reached first _ split
    rw [← found] at stood
    exact stood.lt_after_call positive fired
  · intro bound inside bounded
    have counted := standing.count_fires_le positive _ undisturbed inside bounded
    rw [Int.sub_self, Int.sub_zero] at counted
    rw [records_runEach, List.countP_map]
    exact counted

/-- A state with a context in slot 3 and, in slot 2, a ROS clock with its override at zero. -/
def stateBeforeTimer : State :=
  State.after { readings := fun _ => ⟨.ok .zero, .ok .zero⟩ }
    [.options (some 4) .init, .initContext 0 none (some 4) (some 3),
      .clock (some 2) (.init .rosTime), .clock (some 2) .enableOverride]

/-- A timer with a period of 10 whose callback calls it once more. -/
def initOfTimer : Operation :=
  .initTimer (some 1) (some 2) (some 3) (.clamp 10) (some 7) fun _ => [.timer (some 1) .call]

/-- The clock goes on to 35, back below zero and on to 40; then the timer is canceled. -/
def unsteadyRun : List Operation :=
  [.timer (some 1) .call, .clock (some 2) (.setOverride (.clamp 35)), .timer (some 1) .call,
    .clock (some 2) (.setOverride (.clamp (-5))), .timer (some 1) .call,
    .clock (some 2) (.setOverride (.clamp 40)), .timer (some 1) .call, .timer (some 1) .cancel,
    .timer (some 1) .call]

/-- Two of the seven calls go through, where four points are in reach. -/
theorem timer_keeps_grid_unsteady :
    (Reply.recordsEach
      (runEach (run 2) unsteadyRun (initOfTimer.perform stateBeforeTimer).state).1).countP
        (callsTimer 1) = 2 ∧ (2 : Int) ≤ max 0 ((40 - 0) / 10) := by
  have undisturbed : (((initOfTimer.perform stateBeforeTimer).state.moments
      ((initOfTimer.perform stateBeforeTimer).state.trace 2 unsteadyRun)).all
        fun moment => !moment.rearms 1) = true := by
    rfl
  have readings : (((initOfTimer.perform stateBeforeTimer).state.moments
      ((initOfTimer.perform stateBeforeTimer).state.trace 2 unsteadyRun)).all
        fun moment => match moment.state.readClock (.caller 2) with
          | .ok now => now.value ≤ 40
          | .error _ => true) = true := by
    rfl
  have count : (Reply.recordsEach
      (runEach (run 2) unsteadyRun (initOfTimer.perform stateBeforeTimer).state).1).countP
        (callsTimer 1) = 2 := by
    rfl
  have initialised : initOfTimer.perform stateBeforeTimer =
      ⟨.status .ok none, (initOfTimer.perform stateBeforeTimer).state, []⟩ := by
    rfl
  have read : stateBeforeTimer.readClock (.caller 2) = .ok .zero := by rfl
  have positive : 0 < (Nanos.clamp 10).value := by decide
  have kept := timer_keeps_grid initialised read positive 2 unsteadyRun
    (fun moment member => by simpa using List.all_eq_true.mp undisturbed moment member)
  have limited := kept.2.2 40 (by decide) fun moment member _ now read => by
    simpa [read] using List.all_eq_true.mp readings moment member
  rw [count] at limited
  exact ⟨count, limited⟩

end RosClient
