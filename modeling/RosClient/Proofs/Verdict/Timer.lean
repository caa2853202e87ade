import RosClient.Call.Timer
import RosClient.Proofs.Verdict.Clock
import RosClient.Proofs.Verdict.Context

namespace RosClient

/-- The time since the last call and the schedule after a call at `now`. -/
def Schedule.call (schedule : Schedule) (now : Nanos) : Except Fault (Nanos × Schedule) :=
  if now.value < 0 then .error .negativeNow
  else if now.value < schedule.nextCall.value then
    .error (.timerNotReady (schedule.nextCall.sub now))
  else
    .ok (now.sub schedule.lastCall,
      { schedule with
        lastCall := now
        nextCall := nextDeadline schedule.nextCall schedule.period now })

namespace Verdict

/-- Initialises a timer, armed at the present reading of its clock. -/
def initTimer (timer clock context : Option Place) (period : Nanos) (callback : Option Callback) :
    Verdict Unit := fun state => do
  let place ← required "timer" timer
  let clockPlace ← required "clock" clock
  let _ ← required "context" context
  if (state.objects.timers place).isSome then .error .timerInitialized
  else if period.value < 0 then .error (.negativePeriod period)
  else if !state.objects.isContextValid context then .error .contextUnusable
  else
    let now ← state.readClock clockPlace
    .ok (state.commit
      (state.objects.setTimer place (some ⟨clockPlace, callback, .start period now⟩)))

/-- The initialised timer behind a pointer, and its place. -/
def findTimer (pointer : Option Place) (state : State) : Except Fault (Place × Timer) := do
  let place ← required "timer" pointer
  match state.objects.timers place with
  | some timer => .ok (place, timer)
  | none => .error .timerUninitialized

/-- The objects with another schedule for a timer. -/
def reschedule (state : State) (place : Place) (timer : Timer) (schedule : Schedule) : Objects :=
  state.objects.setTimer place (some { timer with schedule })

/-- Uses up the period that has elapsed and hands on the firing. -/
def callTimer (pointer : Option Place) : Verdict Firing := fun state => do
  let (place, timer) ← findTimer pointer state
  if timer.schedule.canceled then .error .timerCanceled
  else
    let now ← state.readClock timer.clock
    let (elapsed, schedule) ← timer.schedule.call now
    .ok {
      value := ⟨elapsed, timer.callback⟩
      objects := reschedule state place timer schedule }

/-- Whether a call is due; never on a canceled timer, whose clock is not read. -/
def timerIsReady (pointer : Option Place) (output : Bool) : Verdict Bool := fun state => do
  requireOutput "is_ready" output
  let (_, timer) ← findTimer pointer state
  if timer.schedule.canceled then .ok (state.answer false)
  else
    let now ← state.readClock timer.clock
    .ok (state.answer (timer.schedule.isDue now))

def timerIsCanceled (pointer : Option Place) (output : Bool) : Verdict Bool := fun state => do
  requireOutput "is_canceled" output
  let (_, timer) ← findTimer pointer state
  .ok (state.answer timer.schedule.canceled)

/-- Arms the timer again at the present reading of its clock. -/
def resetTimer (pointer : Option Place) : Verdict Unit := fun state => do
  let (place, timer) ← findTimer pointer state
  let now ← state.readClock timer.clock
  .ok (state.commit (reschedule state place timer (timer.schedule.reset now)))

def cancelTimer (pointer : Option Place) : Verdict Unit := fun state => do
  let (place, timer) ← findTimer pointer state
  .ok (state.commit (reschedule state place timer timer.schedule.cancel))

def timeUntilNextCall (pointer : Option Place) (output : Bool) : Verdict Nanos := fun state => do
  requireOutput "time_until_next_call" output
  let (_, timer) ← findTimer pointer state
  if timer.schedule.canceled then .error .timerCanceled
  else
    let now ← state.readClock timer.clock
    .ok (state.answer (timer.schedule.untilNextCall now))

def timeSinceLastCall (pointer : Option Place) (output : Bool) : Verdict Nanos := fun state => do
  requireOutput "time_since_last_call" output
  let (_, timer) ← findTimer pointer state
  let now ← state.readClock timer.clock
  .ok (state.answer (timer.schedule.sinceLastCall now))

def timerPeriod (pointer : Option Place) (output : Bool) : Verdict Nanos := fun state => do
  requireOutput "period" output
  let (_, timer) ← findTimer pointer state
  .ok (state.answer timer.schedule.period)

/-- Swaps the period and answers the old one. The deadline stays; the new period counts from the
next call or reset. -/
def exchangePeriod (pointer : Option Place) (period : Nanos) (output : Bool) : Verdict Nanos :=
  fun state => do
    requireOutput "old_period" output
    let (place, timer) ← findTimer pointer state
    if period.value < 0 then .error (.negativePeriod period)
    else
      .ok {
        value := timer.schedule.period
        objects := reschedule state place timer (timer.schedule.withPeriod period) }

/-- Releases a timer; there is nothing to do without one. -/
def finiTimer (pointer : Option Place) : Verdict Unit := fun state =>
  match pointer with
  | none => .ok (state.commit state.objects)
  | some place => .ok (state.commit (state.objects.setTimer place none))

variable {state : State} {timer : Option Place}

theorem initTimer_eq_ok {clock context : Option Place} {period : Nanos}
    {callback : Option Callback} {commit : Commit Unit} :
    initTimer timer clock context period callback state = .ok commit ↔
      ∃ place, timer = some place ∧ ∃ clockPlace, clock = some clockPlace ∧
        (∃ owner, context = some owner) ∧ state.objects.timers place = none ∧
        0 ≤ period.value ∧ state.objects.isContextValid context = true ∧
        ∃ now, state.readClock clockPlace = .ok now ∧
          state.commit (state.objects.setTimer place
            (some ⟨clockPlace, callback, .start period now⟩)) = commit := by
  simp only [initTimer, bind_eq_ok, required_eq_ok, refusal_eq_ok, Except.ok.injEq,
    Option.not_isSome_iff_eq_none, Int.not_lt, Bool.not_eq_true', Bool.not_eq_false]
  constructor
  · rintro ⟨place, rfl, clockPlace, rfl, owner, rfl, rest⟩
    exact ⟨place, rfl, clockPlace, rfl, ⟨owner, rfl⟩, rest⟩
  · rintro ⟨place, rfl, clockPlace, rfl, ⟨owner, rfl⟩, rest⟩
    exact ⟨place, rfl, clockPlace, rfl, owner, rfl, rest⟩

theorem findTimer_eq_ok {place : Place} {found : Timer} :
    findTimer timer state = .ok (place, found) ↔
      timer = some place ∧ state.objects.timers place = some found := by
  simp only [findTimer, bind_eq_ok, required_eq_ok]
  constructor
  · rintro ⟨here, rfl, looked⟩
    split at looked
    · next present =>
      cases looked
      exact ⟨rfl, present⟩
    · cases looked
  · rintro ⟨rfl, present⟩
    exact ⟨place, rfl, by rw [present]⟩

theorem findTimer_of_some {place : Place} {found : Timer}
    (present : state.objects.timers place = some found) :
    findTimer (some place) state = .ok (place, found) :=
  findTimer_eq_ok.mpr ⟨rfl, present⟩

theorem findTimer_of_none {place : Place} (absent : state.objects.timers place = none) :
    findTimer (some place) state = .error .timerUninitialized := by
  simp only [findTimer, required, absent, bind, Except.bind]

theorem callTimer_eq_ok {commit : Commit Firing} :
    callTimer timer state = .ok commit ↔
      ∃ place found, (timer = some place ∧ state.objects.timers place = some found) ∧
        found.schedule.canceled = false ∧ ∃ now, state.readClock found.clock = .ok now ∧
          ∃ elapsed schedule, found.schedule.call now = .ok (elapsed, schedule) ∧
            { value := ⟨elapsed, found.callback⟩
              objects := reschedule state place found schedule } = commit := by
  simp only [callTimer, bind_eq_ok, findTimer_eq_ok, refusal_eq_ok, Prod.exists, Except.ok.injEq,
    Bool.not_eq_true]

theorem resetTimer_eq_ok {commit : Commit Unit} :
    resetTimer timer state = .ok commit ↔
      ∃ place found, (timer = some place ∧ state.objects.timers place = some found) ∧
        ∃ now, state.readClock found.clock = .ok now ∧
          state.commit (reschedule state place found (found.schedule.reset now)) = commit := by
  simp only [resetTimer, bind_eq_ok, findTimer_eq_ok, Prod.exists, Except.ok.injEq]

theorem cancelTimer_eq_ok {commit : Commit Unit} :
    cancelTimer timer state = .ok commit ↔
      ∃ place found, (timer = some place ∧ state.objects.timers place = some found) ∧
        state.commit (reschedule state place found found.schedule.cancel) = commit := by
  simp only [cancelTimer, bind_eq_ok, findTimer_eq_ok, Prod.exists, Except.ok.injEq]

theorem exchangePeriod_eq_ok {period : Nanos} {output : Bool} {commit : Commit Nanos} :
    exchangePeriod timer period output state = .ok commit ↔
      output = true ∧ ∃ place found,
        (timer = some place ∧ state.objects.timers place = some found) ∧ 0 ≤ period.value ∧
          { value := found.schedule.period
            objects := reschedule state place found (found.schedule.withPeriod period) } =
              commit := by
  simp only [exchangePeriod, bind_eq_ok, requireOutput_eq_ok, findTimer_eq_ok, refusal_eq_ok,
    Prod.exists, exists_const, Except.ok.injEq, Int.not_lt]

theorem timerIsReady_looks (output : Bool) : (timerIsReady timer output).Looks := by
  intro state commit accepted
  simp only [timerIsReady, bind_eq_ok] at accepted
  obtain ⟨_, _, found, _, looked⟩ := accepted
  split at looked
  · cases looked
    exact ⟨_, rfl⟩
  · obtain ⟨now, _, answered⟩ := bind_eq_ok.mp looked
    cases answered
    exact ⟨_, rfl⟩

theorem timerIsCanceled_eq_ok {output : Bool} {commit : Commit Bool} :
    timerIsCanceled timer output state = .ok commit ↔
      output = true ∧ ∃ place found,
        (timer = some place ∧ state.objects.timers place = some found) ∧
          state.answer found.schedule.canceled = commit := by
  simp only [timerIsCanceled, bind_eq_ok, requireOutput_eq_ok, findTimer_eq_ok, Prod.exists,
    exists_const, Except.ok.injEq]

theorem timerIsCanceled_looks (output : Bool) : (timerIsCanceled timer output).Looks := by
  intro state commit accepted
  obtain ⟨_, _, found, _, rfl⟩ := timerIsCanceled_eq_ok.mp accepted
  exact ⟨_, rfl⟩

theorem timeUntilNextCall_looks (output : Bool) : (timeUntilNextCall timer output).Looks := by
  intro state commit accepted
  simp only [timeUntilNextCall, bind_eq_ok, refusal_eq_ok, Except.ok.injEq] at accepted
  obtain ⟨_, _, found, _, _, now, _, rfl⟩ := accepted
  exact ⟨_, rfl⟩

theorem timeSinceLastCall_looks (output : Bool) : (timeSinceLastCall timer output).Looks := by
  intro state commit accepted
  simp only [timeSinceLastCall, bind_eq_ok, Except.ok.injEq] at accepted
  obtain ⟨_, _, found, _, now, _, rfl⟩ := accepted
  exact ⟨_, rfl⟩

theorem timerPeriod_looks (output : Bool) : (timerPeriod timer output).Looks := by
  intro state commit accepted
  simp only [timerPeriod, bind_eq_ok, Except.ok.injEq] at accepted
  obtain ⟨_, _, found, _, rfl⟩ := accepted
  exact ⟨_, rfl⟩

theorem findTimer_checks (timer : Option Place) :
    Checks (Call.findTimer timer) Fault.status (findTimer timer) := by
  intro state
  cases timer with
  | none => rfl
  | some place =>
    unfold Call.findTimer
    dsimp only
    rw [get_bind]
    cases present : state.objects.timers place with
    | some timer =>
      rw [findTimer_of_some present]
      rfl
    | none =>
      rw [findTimer_of_none present]
      rfl

theorem storeSchedule_apply {place : Place} {found : Timer}
    (present : state.objects.timers place = some found) (change : Schedule → Schedule) :
    Call.storeSchedule place change state =
      .ok () { state with objects := reschedule state place found (change found.schedule) } := by
  have written : Call.storeSchedule place change state = .ok () { state with
      objects := state.objects.setTimer place ((state.objects.timers place).map fun timer =>
        { timer with schedule := change timer.schedule }) } := rfl
  rw [written, present]
  rfl

theorem storeSchedule_bind {α : Type} {place : Place} {found : Timer}
    (present : state.objects.timers place = some found) (change : Schedule → Schedule)
    (next : Call α) :
    (Call.storeSchedule place change >>= fun _ => next) state =
      next { state with objects := reschedule state place found (change found.schedule) } := by
  change EStateM.bind _ _ state = _
  simp only [EStateM.bind, storeSchedule_apply present]

theorem timers_reschedule (state : State) (place : Place) (found : Timer) (schedule : Schedule) :
    (reschedule state place found schedule).timers place = some { found with schedule } :=
  replace_self _ _ _

theorem reschedule_reschedule (place : Place) (found : Timer) (first second : Schedule) :
    reschedule { state with objects := reschedule state place found first } place
      { found with schedule := first } second = reschedule state place found second :=
  Objects.setTimer_setTimer _ _ _ _

instance (clock context : Option Place) (period : Nanos) (callback : Option Callback) :
    Settles (Call.initTimer timer clock context period callback) Fault.status
      (initTimer timer clock context period callback) where
  settles state := by
    refine (required_checks "timer" timer Fault.status).bind ?_
    intro place _
    refine (required_checks "clock" clock Fault.status).bind ?_
    intro clockPlace _
    refine (required_checks "context" context Fault.status).bind ?_
    intro _ _
    rw [get_bind]
    cases (state.objects.timers place).isSome with
    | true => rfl
    | false =>
      by_cases negative : period.value < 0
      · simp only [negative, ↓reduceIte, Bool.false_eq_true]
        rfl
      simp only [negative, ↓reduceIte, Bool.false_eq_true, get_bind]
      cases state.objects.isContextValid context with
      | false => rfl
      | true =>
        refine (readClock_checks clockPlace).bind ?_
        intro now _
        exact (state.settle_commit _ _).symm

instance : Settles (Call.callTimer timer) Fault.status (callTimer timer) where
  settles state := by
    refine (findTimer_checks timer).bind ?_
    rintro ⟨place, found⟩ looked
    have present := (findTimer_eq_ok.mp looked).2
    dsimp only
    cases found.schedule.canceled with
    | true => rfl
    | false =>
      refine (readClock_checks found.clock).bind ?_
      intro now _
      unfold Schedule.call
      by_cases negative : now.value < 0
      · simp only [negative, ↓reduceIte]
        rfl
      by_cases early : now.value < found.schedule.nextCall.value
      · simp only [negative, early, ↓reduceIte]
        rfl
      simp only [negative, early, ↓reduceIte]
      rw [storeSchedule_bind present, storeSchedule_bind (timers_reschedule ..),
        reschedule_reschedule]
      exact (state.settle_value _ _ _).symm

instance (output : Bool) :
    Settles (Call.timerIsReady timer output) Fault.status (timerIsReady timer output) where
  settles state := by
    refine (requireOutput_checks "is_ready" output).bind ?_
    intro _ _
    refine (findTimer_checks timer).bind ?_
    rintro ⟨place, found⟩ _
    dsimp only
    cases found.schedule.canceled with
    | true => exact (state.settle_answer _ _).symm
    | false => exact (readClock_checks found.clock).answer

instance (output : Bool) :
    Settles (Call.timerIsCanceled timer output) Fault.status (timerIsCanceled timer output) where
  settles state := by
    refine (requireOutput_checks "is_canceled" output).bind ?_
    intro _ _
    refine (findTimer_checks timer).bind ?_
    rintro ⟨place, found⟩ _
    exact (state.settle_answer _ _).symm

instance : Settles (Call.resetTimer timer) Fault.status (resetTimer timer) where
  settles state := by
    refine (findTimer_checks timer).bind ?_
    rintro ⟨place, found⟩ looked
    have present := (findTimer_eq_ok.mp looked).2
    refine (readClock_checks found.clock).bind ?_
    intro now _
    rw [storeSchedule_bind present, storeSchedule_bind (timers_reschedule ..),
      storeSchedule_apply (timers_reschedule ..), reschedule_reschedule, reschedule_reschedule]
    exact (state.settle_commit _ _).symm

instance : Settles (Call.cancelTimer timer) Fault.status (cancelTimer timer) where
  settles state := by
    refine (findTimer_checks timer).bind ?_
    rintro ⟨place, found⟩ looked
    have present := (findTimer_eq_ok.mp looked).2
    dsimp only
    rw [storeSchedule_apply present]
    exact (state.settle_commit _ _).symm

instance (output : Bool) :
    Settles (Call.timeUntilNextCall timer output) Fault.status
      (timeUntilNextCall timer output) where
  settles state := by
    refine (requireOutput_checks "time_until_next_call" output).bind ?_
    intro _ _
    refine (findTimer_checks timer).bind ?_
    rintro ⟨place, found⟩ _
    dsimp only
    cases found.schedule.canceled with
    | true => rfl
    | false => exact (readClock_checks found.clock).answer

instance (output : Bool) :
    Settles (Call.timeSinceLastCall timer output) Fault.status
      (timeSinceLastCall timer output) where
  settles state := by
    refine (requireOutput_checks "time_since_last_call" output).bind ?_
    intro _ _
    refine (findTimer_checks timer).bind ?_
    rintro ⟨place, found⟩ _
    exact (readClock_checks found.clock).answer

instance (output : Bool) :
    Settles (Call.timerPeriod timer output) Fault.status (timerPeriod timer output) where
  settles state := by
    refine (requireOutput_checks "period" output).bind ?_
    intro _ _
    refine (findTimer_checks timer).bind ?_
    rintro ⟨place, found⟩ _
    exact (state.settle_answer _ _).symm

instance (period : Nanos) (output : Bool) :
    Settles (Call.exchangePeriod timer period output) Fault.status
      (exchangePeriod timer period output) where
  settles state := by
    refine (requireOutput_checks "old_period" output).bind ?_
    intro _ _
    refine (findTimer_checks timer).bind ?_
    rintro ⟨place, found⟩ looked
    have present := (findTimer_eq_ok.mp looked).2
    dsimp only
    by_cases negative : period.value < 0
    · simp only [negative, ↓reduceIte]
      rfl
    simp only [negative, ↓reduceIte]
    rw [storeSchedule_bind present]
    exact (state.settle_value _ _ _).symm

instance : Settles (Call.finiTimer timer) Fault.status (finiTimer timer) where
  settles state := by
    cases timer with
    | none => exact (state.settle_commit _ _).symm
    | some place =>
      unfold Call.finiTimer finiTimer
      dsimp only
      rw [get_bind]
      cases present : state.objects.timers place with
      | none =>
        -- There is nothing to release, and releasing it is no change.
        have kept : state.objects.setTimer place none = state.objects :=
          (congrArg (state.objects.setTimer place) present.symm).trans
            (state.objects.setTimer_self place)
        rw [kept]
        exact (state.settle_commit _ _).symm
      | some found =>
        simp only [Option.isNone_some, Bool.false_eq_true, ↓reduceIte]
        rw [storeSchedule_bind present]
        refine Eq.trans ?_ (state.settle_commit _ _).symm
        exact congrArg (fun objects => EStateM.Result.ok () { state with objects })
          (Objects.setTimer_setTimer ..)

end Verdict

end RosClient
