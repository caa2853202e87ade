import RosClient.Proofs.Timer.Apart
import RosClient.Proofs.Timer.LeastPoint
import RosClient.Proofs.Timer.Query

namespace RosClient

/-- What an event writes to the period of a timer. -/
def TimerEvent.period? : TimerEvent → Option Nanos
  | init _ period _ => some period
  | exchange period => some period
  | untouched | call | reset | cancel | fini => none

/-- The period that the caller sees accepted for the timer of a slot in an operation and its
answer. -/
def acceptedPeriod? (slot : Slot) (record : Operation × Answer) : Option Nanos :=
  (timerEventOf slot record).period?

/-- The period accepted last, or the one from before if none was. -/
def acceptedPeriod (slot : Slot) (before : Nanos) (history : List (Operation × Answer)) : Nanos :=
  (lastWritten (acceptedPeriod? slot) history).getD before

theorem acceptedPeriod_cons (slot : Slot) (before : Nanos) (record : Operation × Answer)
    (history : List (Operation × Answer)) :
    acceptedPeriod slot before (record :: history) =
      acceptedPeriod slot ((acceptedPeriod? slot record).getD before) history := by
  simp only [acceptedPeriod, lastWritten_cons]
  cases lastWritten (acceptedPeriod? slot) history <;> rfl

/-- The timer of a slot, if there is one, has this period, which is not negative. -/
def State.HasPeriod (state : State) (slot : Slot) (period : Nanos) : Prop :=
  ∀ timer, state.objects.timers (.caller slot) = some timer →
    timer.schedule.period = period ∧ 0 ≤ period.value

theorem Moment.hasPeriod_after (moment : Moment) {slot : Slot} {period : Nanos}
    (had : moment.state.HasPeriod slot period) :
    moment.after.HasPeriod slot ((acceptedPeriod? slot moment.record).getD period) := by
  intro timer present
  have made := moment.timer_after slot
  have same : timerEventOf slot moment.record = moment.timerEvent slot := rfl
  rw [present] at made
  unfold acceptedPeriod?
  rw [same]
  cases event : moment.timerEvent slot with
  | untouched =>
    rw [event] at made
    exact had timer made.symm
  | init clock accepted callback =>
    rw [event] at made
    obtain ⟨_, nonnegative, now, _, left⟩ := made
    cases left
    exact ⟨rfl, nonnegative⟩
  | call =>
    rw [event] at made
    obtain ⟨before, found, _, now, _, elapsed, schedule, called, left⟩ := made
    obtain ⟨_, _, _, rfl⟩ := Schedule.call_eq_ok.mp called
    cases left
    exact had before found
  | reset =>
    rw [event] at made
    obtain ⟨before, found, now, _, left⟩ := made
    cases left
    exact had before found
  | cancel =>
    rw [event] at made
    obtain ⟨before, found, left⟩ := made
    cases left
    exact had before found
  | exchange accepted =>
    rw [event] at made
    obtain ⟨before, found, nonnegative, left⟩ := made
    cases left
    exact ⟨rfl, nonnegative⟩
  | fini =>
    rw [event] at made
    cases made

/-- After a run a timer has the period that was accepted last in it. -/
theorem State.HasPeriod.after_run {state : State} {slot : Slot} {period : Nanos}
    (had : state.HasPeriod slot period) (operations : List Operation) :
    (state.after operations).HasPeriod slot
      (acceptedPeriod slot period ((state.moments operations).map Moment.record)) := by
  induction operations generalizing state period with
  | nil => exact had
  | cons operation rest ih =>
    have next := Moment.hasPeriod_after ⟨state, operation⟩ had
    rw [State.moments, List.map_cons, acceptedPeriod_cons]
    exact ih next

section

variable {state : State} {slot : Slot} {timer : Timer}

theorem exchange_answer (present : state.objects.timers (.caller slot) = some timer) {next : Nanos}
    (nonnegative : 0 ≤ next.value) :
    (Operation.timer (some slot) (.exchangePeriod next true)).perform state =
      ⟨.status .ok (some (.nanos timer.schedule.period)),
        state.committed {
          value := timer.schedule.period
          objects := Verdict.reschedule state (.caller slot) timer
            (timer.schedule.withPeriod next) }, []⟩ :=
  State.respond_of_ok (Verdict.exchangePeriod_eq_ok.mpr
    ⟨rfl, .caller slot, timer, ⟨rfl, present⟩, nonnegative, rfl⟩)

theorem exchange_negative {next : Nanos} (negative : next.value < 0)
    (present : state.objects.timers (.caller slot) = some timer) (output : Bool) :
    ((Operation.timer (some slot) (.exchangePeriod next output)).perform state).answer =
        .status .invalidArgument none ∧
      ((Operation.timer (some slot) (.exchangePeriod next output)).perform state).state.objects =
        state.objects := by
  have refused : ∃ fault, fault.status = .invalidArgument ∧
      Verdict.exchangePeriod (some (.caller slot)) next output state = .error fault := by
    cases output with
    | false => exact ⟨.nullArgument "old_period", rfl, rfl⟩
    | true =>
      refine ⟨.negativePeriod next, rfl, ?_⟩
      simp only [Verdict.exchangePeriod, Verdict.requireOutput, ↓reduceIte, bind, Except.bind,
        Verdict.findTimer_of_some present, negative]
  obtain ⟨fault, invalid, refused⟩ := refused
  have responded : (Operation.timer (some slot) (.exchangePeriod next output)).perform state = _ :=
    State.respond_of_error refused
  rw [invalid] at responded
  exact ⟨congrArg Effect.answer responded, congrArg (·.state.objects) responded⟩

end

/-- Two states that agree but for the diagnostics, the log and the period of one timer: in the
second one the timer is as given, in the first one it has the given period. -/
structure State.DiffersInPeriod (slot : Slot) (timer : Timer) (period : Nanos)
    (first second : State) : Prop where
  present : second.objects.timers (.caller slot) = some timer
  objects : first.objects = second.objects.setTimer (.caller slot)
    (some { timer with schedule := timer.schedule.withPeriod period })
  environment : first.environment = second.environment
  nonnegative : 0 ≤ period.value

theorem Objects.eq_of_only {slot : Slot} {first second : Objects}
    (agree : first.only slot = second.only slot) :
    first = { second with timers := first.timers } := by
  obtain ⟨options, contexts, clocks, _, nextId⟩ := Objects.mk.inj agree
  cases first
  cases second
  cases options
  cases contexts
  cases clocks
  cases nextId
  rfl

theorem Operation.isOnOther_of_not_isOnTimer {operation : Operation}
    (apart : operation.isOnTimer = false) (slot : Slot) : operation.isOnOther slot = false := by
  cases operation with
  | initTimer | timer => cases apart
  | errorIsSet | errorText | resetError | otherThread | setVariable | installLogger | options
  | initContext | context | clock | refuse => rfl

theorem State.DiffersInPeriod.refl {state : State} {slot : Slot} {timer : Timer}
    (present : state.objects.timers (.caller slot) = some timer)
    (nonnegative : 0 ≤ timer.schedule.period.value) :
    State.DiffersInPeriod slot timer timer.schedule.period state state :=
  { present
    objects := congrArg (fun timers => { state.objects with timers }) (replace_of_eq present).symm
    environment := rfl
    nonnegative }

namespace State.DiffersInPeriod

variable {slot : Slot} {timer : Timer} {period : Nanos} {first second : State}
  (differs : State.DiffersInPeriod slot timer period first second)

include differs

theorem given (real : RealTime) :
    State.DiffersInPeriod slot timer period (first.given real) (second.given real) :=
  ⟨differs.present, differs.objects, differs.environment, differs.nonnegative⟩

theorem present_first : first.objects.timers (.caller slot) =
    some { timer with schedule := timer.schedule.withPeriod period } := by
  rw [differs.objects]
  exact replace_self _ _ _

theorem readClock_eq (sameTime : first.realTime = second.realTime) (place : Place) :
    first.readClock place = second.readClock place := by
  simp only [readClock, differs.objects, Objects.setTimer, sameTime]

theorem perform_apart (sameTime : first.realTime = second.realTime) {operation : Operation}
    (apart : operation.isOnTimer = false) :
    (operation.asksDiagnostic = false →
      (operation.perform first).answer = (operation.perform second).answer) ∧
    State.DiffersInPeriod slot timer period (operation.perform first).state
      (operation.perform second).state := by
  -- The two states agree if they are looked at from any slot but that of the timer.
  have elsewhere : Place.caller slot ≠ .caller (slot + 1) := fun same =>
    Int.ne_of_lt (Int.lt_succ slot) (Place.caller.inj same)
  have agree : first.AgreeOn (slot + 1) second := by
    refine ⟨?_, differs.environment⟩
    rw [differs.objects]
    exact Objects.only_setTimer_of_ne elsewhere _
  obtain ⟨answered, left⟩ := operation.perform_agrees
    (Operation.isOnOther_of_not_isOnTimer apart _) agree sameTime
  have kept := operation.timers_perform first apart
  have keptToo := operation.timers_perform second apart
  refine ⟨answered, ?_, ?_, left.environment, differs.nonnegative⟩
  · rw [keptToo]
    exact differs.present
  · rw [Objects.eq_of_only left.objects, kept, differs.objects]
    simp only [Objects.setTimer, keptToo]

end State.DiffersInPeriod

theorem answer_respond_eq {α : Type} {first second : State} {call : Call α}
    {verdict : Verdict α} [Settles call Fault.status verdict]
    (same : (verdict first).map Commit.value = (verdict second).map Commit.value)
    (output : α → Option Value) :
    (first.respond call output).answer = (second.respond call output).answer := by
  cases one : verdict first with
  | error fault =>
    cases two : verdict second with
    | error other =>
      rw [one, two] at same
      cases same
      rw [State.respond_of_error one, State.respond_of_error two]
    | ok commit =>
      rw [one, two] at same
      cases same
  | ok commit =>
    cases two : verdict second with
    | error fault =>
      rw [one, two] at same
      cases same
    | ok other =>
      rw [one, two] at same
      have value : commit.value = other.value := Except.ok.inj same
      rw [State.respond_of_ok one, State.respond_of_ok two, value]

/-- The requests that only look at a timer. -/
def TimerCall.isQuery : TimerCall → Bool
  | isReady _ | isCanceled _ | untilNextCall _ | sinceLastCall _ | period _ => true
  | call | reset | cancel | exchangePeriod _ _ | fini => false

theorem TimerCall.isQuery_looks {request : TimerCall} (query : request.isQuery = true)
    (timer : Option Place) (state : State) :
    (request.perform timer state).state.objects = state.objects := by
  cases request with
  | isReady output => exact (Verdict.timerIsReady_looks output).objects_respond _ _
  | isCanceled output => exact (Verdict.timerIsCanceled_looks output).objects_respond _ _
  | untilNextCall output => exact (Verdict.timeUntilNextCall_looks output).objects_respond _ _
  | sinceLastCall output => exact (Verdict.timeSinceLastCall_looks output).objects_respond _ _
  | period output => exact (Verdict.timerPeriod_looks output).objects_respond _ _
  | call | reset | cancel | exchangePeriod | fini => cases query

theorem State.DiffersInPeriod.query_answer {slot : Slot} {timer : Timer} {period : Nanos}
    {first second : State} (differs : State.DiffersInPeriod slot timer period first second)
    (sameTime : first.realTime = second.realTime) {request : TimerCall}
    (query : request.isQuery = true) (other : ∀ output, request ≠ .period output) :
    (request.perform (some (.caller slot)) first).answer =
      (request.perform (some (.caller slot)) second).answer := by
  have found : first.Finds (.caller slot)
      { timer with schedule := timer.schedule.withPeriod period }
      (second.readClock timer.clock) := ⟨differs.present_first, differs.readClock_eq sameTime _⟩
  have foundToo : second.Finds (.caller slot) timer (second.readClock timer.clock) :=
    ⟨differs.present, rfl⟩
  cases request with
  | isReady output =>
    exact answer_respond_eq ((found.value_timerIsReady output).trans
      (foundToo.value_timerIsReady output).symm) _
  | isCanceled output =>
    exact answer_respond_eq ((found.value_timerIsCanceled output).trans
      (foundToo.value_timerIsCanceled output).symm) _
  | untilNextCall output =>
    exact answer_respond_eq ((found.value_timeUntilNextCall output).trans
      (foundToo.value_timeUntilNextCall output).symm) _
  | sinceLastCall output =>
    exact answer_respond_eq ((found.value_timeSinceLastCall output).trans
      (foundToo.value_timeSinceLastCall output).symm) _
  | period output => exact absurd rfl (other output)
  | call | reset | cancel | exchangePeriod | fini => cases query

namespace Operation

/-- Whether an operation exchanges the period of the timer of a slot. -/
def exchanges (slot : Slot) : Operation → Bool
  | timer (some target) (.exchangePeriod _ _) => target = slot
  | _ => false

/-- Whether an operation only looks at the timer of a slot. -/
def looksAt (slot : Slot) : Operation → Bool
  | timer (some target) request => target = slot && request.isQuery
  | _ => false

/-- Whether an operation asks for the period of the timer of a slot. -/
def asksPeriod (slot : Slot) : Operation → Bool
  | timer (some target) (.period _) => target = slot
  | _ => false

/-- Whether an operation exchanges the period of the timer of a slot, only looks at this timer, or
is not on timers at all. -/
def exchangesOrLooks (slot : Slot) (operation : Operation) : Bool :=
  operation.exchanges slot || operation.looksAt slot || !operation.isOnTimer

variable {slot : Slot} {operation : Operation}

theorem eq_of_exchanges (exchanges : operation.exchanges slot = true) :
    ∃ next output, operation = .timer (some slot) (.exchangePeriod next output) := by
  unfold Operation.exchanges at exchanges
  split at exchanges
  · exact ⟨_, _, by rw [of_decide_eq_true exchanges]⟩
  · cases exchanges

theorem eq_of_looksAt (looks : operation.looksAt slot = true) :
    ∃ request, request.isQuery = true ∧ operation = .timer (some slot) request := by
  unfold looksAt at looks
  split at looks
  · next target request =>
    obtain ⟨here, query⟩ := Bool.and_eq_true_iff.mp looks
    exact ⟨request, query, by rw [of_decide_eq_true here]⟩
  · cases looks

theorem isTimerCall_of_exchangesOrLooks (kind : operation.exchangesOrLooks slot = true) :
    operation.isTimerCall = false := by
  unfold exchangesOrLooks at kind
  rcases Bool.or_eq_true_iff.mp kind with onTimer | apart
  · rcases Bool.or_eq_true_iff.mp onTimer with exchanges | looks
    · obtain ⟨_, _, rfl⟩ := eq_of_exchanges exchanges
      rfl
    · obtain ⟨request, query, rfl⟩ := eq_of_looksAt looks
      cases request with
      | call => cases query
      | isReady | isCanceled | reset | cancel | untilNextCall | sinceLastCall | period
      | exchangePeriod | fini => rfl
  · cases operation with
    | timer => cases apart
    | errorIsSet | errorText | resetError | otherThread | setVariable | installLogger | options
    | initContext | context | clock | initTimer | refuse => rfl

end Operation

/-- Two replies to one operation that tell the same, unless it asks for the diagnostic or for the
period of the timer of a slot. -/
structure Reply.TellSameButPeriod (slot : Slot) (first second : Reply) : Prop where
  operation : first.operation = second.operation
  answer : first.operation.asksDiagnostic = false → first.operation.asksPeriod slot = false →
    first.answer = second.answer

/-- The steps that do not exchange the period of the timer of a slot. -/
def withoutExchanges (slot : Slot) (steps : List GivenStep) : List GivenStep :=
  steps.filter fun step => !step.operation.exchanges slot

/-- The replies to operations that do not exchange the period of the timer of a slot. -/
def repliesWithoutExchanges (slot : Slot) (replies : List Reply) : List Reply :=
  replies.filter fun reply => !reply.operation.exchanges slot

theorem State.DiffersInPeriod.exchange {slot : Slot} {timer : Timer} {period : Nanos}
    {first second : State} (differs : State.DiffersInPeriod slot timer period first second)
    (moment : Moment) (found : moment.state = first) {next : Nanos} {output : Bool}
    (asked : moment.operation = .timer (some slot) (.exchangePeriod next output)) :
    State.DiffersInPeriod slot timer ((acceptedPeriod? slot moment.record).getD period)
      moment.after second := by
  obtain ⟨state, operation⟩ := moment
  cases found
  cases asked
  have effect : (Operation.timer (some slot) (.exchangePeriod next output)).perform state =
      state.respondNanos (Call.exchangePeriod (some (.caller slot)) next output) := rfl
  cases outcome : Verdict.exchangePeriod (some (.caller slot)) next output state with
  | error fault =>
    have different := fault.status_ne_ok
    have responded := effect.trans (State.respond_of_error outcome)
    simp only [acceptedPeriod?, timerEventOf, Moment.record, Moment.answer, Moment.after,
      Moment.effect, responded, Answer.isOk, Answer.status?, Option.some.injEq, different,
      decide_false, Bool.false_eq_true, ↓reduceIte, TimerEvent.period?, Option.getD_none]
    exact ⟨differs.present, differs.objects, differs.environment, differs.nonnegative⟩
  | ok commit =>
    have responded := effect.trans (State.respond_of_ok outcome)
    obtain ⟨_, _, held, ⟨here, there⟩, nonnegative, rfl⟩ :=
      Verdict.exchangePeriod_eq_ok.mp outcome
    cases here
    cases differs.present_first.symm.trans there
    simp only [acceptedPeriod?, timerEventOf, Moment.record, Moment.answer, Moment.after,
      Moment.effect, responded, Answer.isOk, Answer.status?, decide_true, ↓reduceIte,
      Operation.timerEvent, TimerCall.event, TimerEvent.period?, Option.getD_some]
    refine ⟨differs.present, ?_, differs.environment, nonnegative⟩
    rw [State.objects_committed, Verdict.reschedule, differs.objects, Objects.setTimer_setTimer]
    rfl

theorem acceptedPeriod?_of_quiet {slot : Slot} {operation : Operation}
    (quiet : operation.looksAt slot = true ∨ operation.isOnTimer = false) (answer : Answer) :
    acceptedPeriod? slot (operation, answer) = none := by
  have untouched : (operation.timerEvent slot).period? = none := by
    rcases quiet with looks | apart
    · obtain ⟨request, query, rfl⟩ := Operation.eq_of_looksAt looks
      simp only [Operation.timerEvent, ↓reduceIte]
      cases request with
      | isReady | isCanceled | untilNextCall | sinceLastCall | period => rfl
      | call | reset | cancel | exchangePeriod | fini => cases query
    · cases operation with
      | initTimer | timer => cases apart
      | errorIsSet | errorText | resetError | otherThread | setVariable | installLogger | options
      | initContext | context | clock | refuse => rfl
  unfold acceptedPeriod? timerEventOf
  split
  · exact untouched
  · rfl

theorem State.DiffersInPeriod.perform_quiet {slot : Slot} {timer : Timer} {period : Nanos}
    {first second : State} (differs : State.DiffersInPeriod slot timer period first second)
    (sameTime : first.realTime = second.realTime) {operation : Operation}
    (quiet : operation.looksAt slot = true ∨ operation.isOnTimer = false) :
    (operation.asksDiagnostic = false → operation.asksPeriod slot = false →
      (operation.perform first).answer = (operation.perform second).answer) ∧
    State.DiffersInPeriod slot timer period (operation.perform first).state
      (operation.perform second).state := by
  rcases quiet with looks | apart
  · obtain ⟨request, query, rfl⟩ := Operation.eq_of_looksAt looks
    constructor
    · intro _ other
      apply differs.query_answer sameTime query
      rintro output rfl
      simp [Operation.asksPeriod] at other
    · have kept (state : State) :
          ((Operation.timer (some slot) request).perform state).state.objects = state.objects :=
        TimerCall.isQuery_looks query _ state
      have environment (state : State) :=
        Operation.environment_perform_onTimer (.timer (some slot) request) rfl state
      refine ⟨?_, ?_, ?_, differs.nonnegative⟩
      · rw [kept]
        exact differs.present
      · rw [kept, kept]
        exact differs.objects
      · rw [environment, environment]
        exact differs.environment
  · obtain ⟨answered, left⟩ := differs.perform_apart sameTime apart
    exact ⟨fun noDiagnostic _ => answered noDiagnostic, left⟩

/-- Of two runs from states that differ in the period of a timer alone, one with all steps and one
without the exchanges of this period, the replies tell the same but for the period, and in the end
the states differ in the period alone, which in the first one is the one accepted last. -/
theorem runGiven_withoutExchanges {slot : Slot} {timer : Timer} (depth : Nat)
    (steps : List GivenStep)
    (kinds : ∀ step ∈ steps, step.operation.exchangesOrLooks slot = true) {period : Nanos}
    {first second : State} (differs : State.DiffersInPeriod slot timer period first second) :
    List.Forall₂ (Reply.TellSameButPeriod slot)
        (repliesWithoutExchanges slot (runGiven depth steps first).1)
        (runGiven depth (withoutExchanges slot steps) second).1 ∧
      State.DiffersInPeriod slot timer
        (acceptedPeriod slot period (Reply.recordsEach (runGiven depth steps first).1))
        (runGiven depth steps first).2
        (runGiven depth (withoutExchanges slot steps) second).2 := by
  induction steps generalizing period first second with
  | nil => exact ⟨.nil, differs⟩
  | cons step rest ih =>
    have kind := kinds step List.mem_cons_self
    have behind (later : GivenStep) (member : later ∈ rest) :=
      kinds later (List.mem_cons_of_mem _ member)
    have noBody (state : State) : (step.operation.perform state).body = [] :=
      step.operation.body_of_not_isTimerCall state
        (Operation.isTimerCall_of_exchangesOrLooks kind)
    have start := differs.given step.real
    unfold withoutExchanges repliesWithoutExchanges at ih ⊢
    rw [runGiven_cons_of_no_body depth (noBody _) rest]
    simp only [Reply.recordsEach, Reply.records, List.cons_append, List.nil_append,
      acceptedPeriod_cons]
    cases exchanges : step.operation.exchanges slot with
    | true =>
      -- An exchange moves the first run only, and in nothing but the period.
      obtain ⟨next, output, asked⟩ := Operation.eq_of_exchanges exchanges
      have moved := start.exchange ⟨first.given step.real, step.operation⟩ rfl asked
      simp only [List.filter_cons, exchanges, Bool.not_true, Bool.false_eq_true, ↓reduceIte]
      exact ih behind ⟨moved.present, moved.objects, moved.environment, moved.nonnegative⟩
    | false =>
      have quiet : step.operation.looksAt slot = true ∨ step.operation.isOnTimer = false := by
        simpa [Operation.exchangesOrLooks, exchanges] using kind
      obtain ⟨answered, moved⟩ := start.perform_quiet rfl quiet
      obtain ⟨told, ended⟩ := ih behind moved
      rw [acceptedPeriod?_of_quiet quiet, Option.getD_none]
      simp only [List.filter_cons, exchanges, Bool.not_false, ↓reduceIte]
      rw [runGiven_cons_of_no_body depth (noBody _)]
      exact ⟨.cons ⟨rfl, answered⟩ told, ended⟩

/-- The timer of a slot counts with a period: an exchange answers it, a call moves the deadline by
the least number of such periods that reaches the reading, and a reset puts it one such period
behind the reading; beyond the range the deadline stops at its end. -/
structure State.CountsWith (state : State) (slot : Slot) (timer : Timer) (period : Nanos) :
    Prop where
  present : state.objects.timers (.caller slot) = some timer
  exchange : ∀ next : Nanos, 0 ≤ next.value →
    ((Operation.timer (some slot) (.exchangePeriod next true)).perform state).answer =
      .status .ok (some (.nanos period))
  call : ∀ now, state.readClock timer.clock = .ok now →
    ((Operation.timer (some slot) .call).perform state).answer.isOk = true →
    ∃ after, ((Operation.timer (some slot) .call).perform state).state.objects.timers
        (.caller slot) = some after ∧
      (period.value = 0 →
        after.schedule.nextCall.value = max timer.schedule.nextCall.value now.value) ∧
      (0 < period.value → ∃ steps,
        IsLeast (reachingSteps timer.schedule.nextCall.value period.value now.value) steps ∧
        after.schedule.nextCall.value =
          min Nanos.last.value (timer.schedule.nextCall.value + steps * period.value))
  reset : ∀ now, state.readClock timer.clock = .ok now →
    ((Operation.timer (some slot) .reset).perform state).answer.isOk = true ∧
    ∃ after, ((Operation.timer (some slot) .reset).perform state).state.objects.timers
        (.caller slot) = some after ∧
      after.schedule.nextCall.value = min Nanos.last.value (now.value + period.value)

theorem countsWith_of_present {state : State} {slot : Slot} {timer : Timer}
    (present : state.objects.timers (.caller slot) = some timer)
    (nonnegative : 0 ≤ timer.schedule.period.value) :
    state.CountsWith slot timer timer.schedule.period where
  present := present
  exchange next accepted := congrArg Effect.answer (exchange_answer present accepted)
  call now read accepted := by
    obtain ⟨before, found, _, reading, alsoRead, elapsed, schedule, called, left⟩ :=
      callTimer_makes (.caller slot) state accepted
    cases present.symm.trans found
    cases read.symm.trans alsoRead
    obtain ⟨_, _, _, rfl⟩ := Schedule.call_eq_ok.mp called
    refine ⟨_, left, fun zero => value_nextDeadline_of_zero zero _ _, fun positive => ?_⟩
    obtain ⟨steps, first, moved⟩ := nextDeadline_steps timer.schedule.nextCall
      timer.schedule.period now positive
    exact ⟨steps, first.isLeast positive, moved.trans (Int.min_comm _ _)⟩
  reset now read := by
    have accepted := Verdict.resetTimer_eq_ok.mpr
      ⟨.caller slot, timer, ⟨rfl, present⟩, now, read, rfl⟩
    have responded : (Operation.timer (some slot) .reset).perform state =
        ⟨.status .ok none, state.committed _, []⟩ := State.respondStatus_of_ok accepted
    rw [responded]
    refine ⟨rfl, _, Verdict.timers_reschedule .., ?_⟩
    have sum := Nanos.value_add now timer.schedule.period
    have below := now.least
    rw [Schedule.reset, Schedule.start, sum, Nanos.value_last]
    omega

/-- The period of a timer is the one accepted last, in the initialisation or in an exchange, and
that is what the next exchange answers and what the next call and the next reset count with; a
negative period is refused and changes nothing. Exchanges are deferred: if they are left out of
operations that exchange the period, look at the timer, or are not on timers, then all others answer
the same but for questions about the period and the diagnostic, and in the end nothing but the
period differs, which is the one accepted last. -/
theorem exchange_is_deferred (start : State) (slot : Slot)
    (vacant : start.objects.timers (.caller slot) = none) (depth : Nat)
    (operations : List Operation) {history rest : List (Operation × Answer)}
    (told : Reply.recordsEach (runEach (run depth) operations start).1 = history ++ rest)
    {timer : Timer} :
    let reached := start.after (history.map Prod.fst)
    let current := acceptedPeriod slot .zero history
    reached.objects.timers (.caller slot) = some timer →
      reached.CountsWith slot timer current ∧
      (∀ next output answer later,
        rest = (.timer (some slot) (.exchangePeriod next output), answer) :: later →
        answer.isOk = true → answer = .status .ok (some (.nanos current))) ∧
      (∀ (next : Nanos) (output : Bool), next.value < 0 →
        let effect := (Operation.timer (some slot) (.exchangePeriod next output)).perform reached
        effect.answer = .status .invalidArgument none ∧
          effect.state.objects = reached.objects) ∧
      ∀ steps : List GivenStep,
        (∀ step ∈ steps, step.operation.exchangesOrLooks slot = true) →
        let all := runGiven depth steps reached
        let without := runGiven depth (withoutExchanges slot steps) reached
        let last := acceptedPeriod slot current (Reply.recordsEach all.1)
        let exchanged := { timer with schedule := timer.schedule.withPeriod last }
        List.Forall₂ (Reply.TellSameButPeriod slot) (repliesWithoutExchanges slot all.1)
            without.1 ∧
          without.2.objects.timers (.caller slot) = some timer ∧
          all.2.objects = without.2.objects.setTimer (.caller slot) (some exchanged) ∧
          ∀ real, (all.2.given real).CountsWith slot exchanged last := by
  intro reached current present
  rw [records_runEach] at told
  obtain ⟨past, future⟩ := State.records_split told
  have had : start.HasPeriod slot .zero := fun timer found => nomatch vacant.symm.trans found
  have has := had.after_run (history.map Prod.fst)
  rw [← past] at has
  obtain ⟨same, nonnegative⟩ := has timer present
  have counts := countsWith_of_present present (same.symm ▸ nonnegative)
  rw [same] at counts
  refine ⟨counts, ?_, ?_, ?_⟩
  · rintro next output answer later rfl accepted
    obtain ⟨told, _⟩ := List.cons_eq_cons.mp future
    have answered : answer = _ := congrArg Prod.snd told
    rw [answered] at accepted ⊢
    obtain ⟨commit, outcome⟩ := State.isOk_respond_iff.mp accepted
    obtain ⟨rfl, _, _, _, accepts, _⟩ := Verdict.exchangePeriod_eq_ok.mp outcome
    exact counts.exchange next accepts
  · intro next output negative
    exact exchange_negative negative present output
  · intro steps kinds
    have alike := State.DiffersInPeriod.refl present (same.symm ▸ nonnegative)
    rw [same] at alike
    obtain ⟨answers, left⟩ := runGiven_withoutExchanges depth steps kinds alike
    exact ⟨answers, left.present, left.objects, fun real =>
      countsWith_of_present (left.given real).present_first left.nonnegative⟩

/-- A timer with a period of 10 is called at 35, and its period is exchanged. -/
def exchangedRun : List Operation :=
  [initOfTimer, .clock (some 2) (.setOverride (.clamp 35)), .timer (some 1) .call,
    .timer (some 1) (.exchangePeriod (.clamp 4) true)]

/-- All that is told of this run. -/
def exchangedRecords : List (Operation × Answer) :=
  Reply.recordsEach (runEach (run 3) exchangedRun stateBeforeTimer).1

/-- The period is exchanged twice more, and once in vain, while the clock goes on to 52. -/
def exchangeSteps : List GivenStep :=
  [⟨realAt 0, .timer (some 1) (.exchangePeriod .zero true)⟩,
    ⟨realAt 1, .timer (some 1) (.untilNextCall true)⟩,
    ⟨realAt 2, .timer (some 1) (.exchangePeriod (.clamp (-1)) true)⟩,
    ⟨realAt 3, .clock (some 2) (.setOverride (.clamp 52))⟩,
    ⟨realAt 4, .timer (some 1) (.exchangePeriod (.clamp 5) true)⟩,
    ⟨realAt 5, .timer (some 1) (.isReady true)⟩]

/-- The exchanges answer 4 and 0, and a call counts with 5 from the deadline that the call at 35 has
set with 10. -/
theorem exchange_is_deferred_twice :
    let reached := stateBeforeTimer.after (exchangedRecords.map Prod.fst)
    let after := (runGiven 3 exchangeSteps reached).2
    (runGiven 3 exchangeSteps reached).1.map Reply.answer =
        [.status .ok (some (.nanos (.clamp 4))), .status .ok (some (.nanos (.clamp 5))),
          .status .invalidArgument none, .status .ok none, .status .ok (some (.nanos .zero)),
          .status .ok (some (.flag true))] ∧
      ∃ timer, timer.schedule.nextCall = .clamp 40 ∧
        ∀ real, (after.given real).CountsWith 1 timer (.clamp 5) := by
  refine ⟨rfl, ?_⟩
  have deferred := exchange_is_deferred stateBeforeTimer 1 rfl 3 exchangedRun
    (List.append_nil exchangedRecords).symm rfl
  have kinds : exchangeSteps.all (fun step => step.operation.exchangesOrLooks 1) = true := by rfl
  obtain ⟨_, _, _, counts⟩ := deferred.2.2.2 exchangeSteps (List.all_eq_true.mp kinds)
  exact ⟨_, rfl, counts⟩

end RosClient
