import RosClient.Proofs.Timer.Canceled

namespace RosClient

/-- The deadline that catches up with a reading: the first one on the grid of the period that the
clock has not passed, or the end of the range. Without a period it is the reading. -/
structure CatchesUp (deadline period now next : Nanos) : Prop where
  still : period.value = 0 → next = now
  onwards : 0 < period.value → ∃ steps,
    ReachesFirst deadline.value period.value now.value steps ∧
      next.value = min (deadline.value + steps * period.value) Nanos.last.value

namespace Timer

/-- The timer after a call at a reading: it has another last call and another deadline. -/
def called (timer : Timer) (now : Nanos) : Timer :=
  { timer with schedule := { timer.schedule with
      lastCall := now
      nextCall := nextDeadline timer.schedule.nextCall timer.schedule.period now } }

/-- What a call at a reading hands on. -/
def firing (timer : Timer) (now : Nanos) : Firing :=
  ⟨now.sub timer.schedule.lastCall, timer.callback⟩

end Timer

namespace State

/-- The timer of a slot goes off if it is called: it runs, its clock can be read, and the reading
is neither negative nor before the deadline. -/
structure GoesOff (state : State) (slot : Slot) (timer : Timer) (now : Nanos) : Prop where
  present : state.objects.timers (.caller slot) = some timer
  running : timer.schedule.canceled = false
  read : state.readClock timer.clock = .ok now
  nonnegative : 0 ≤ now.value
  due : timer.schedule.nextCall.value ≤ now.value

/-- The state in which the callback of a timer starts. -/
def called (state : State) (slot : Slot) (timer : Timer) (now : Nanos) : State :=
  { state with
    objects := state.objects.setTimer (.caller slot) (some (timer.called now))
    calls := state.calls + 1 }

end State

/-- What is answered to requests for a timer that is not there. -/
def TimerCall.absentAnswer? : TimerCall → Option Answer
  | call => some (.called .timerInvalid none)
  | reset | cancel => some (.status .timerInvalid none)
  | isReady true | isCanceled true | untilNextCall true | sinceLastCall true | period true
  | exchangePeriod _ true => some (.status .timerInvalid none)
  | _ => none

theorem nextDeadline_of_zero {deadline period now : Nanos} (zero : period.value = 0)
    (due : deadline.value ≤ now.value) : nextDeadline deadline period now = now :=
  Nanos.ext ((value_nextDeadline_of_zero zero deadline now).trans (Int.max_eq_right due))

theorem catchesUp_nextDeadline {deadline period now : Nanos} (due : deadline.value ≤ now.value) :
    CatchesUp deadline period now (nextDeadline deadline period now) where
  still zero := nextDeadline_of_zero zero due
  onwards positive := nextDeadline_steps deadline period now positive

namespace State

variable {state : State} {slot : Slot} {timer : Timer} {now : Nanos}

theorem GoesOff.callTimer (due : state.GoesOff slot timer now) :
    Verdict.callTimer (some (.caller slot)) state = .ok
      { value := timer.firing now
        objects := state.objects.setTimer (.caller slot) (some (timer.called now)) } :=
  Verdict.callTimer_eq_ok.mpr ⟨_, timer, ⟨rfl, due.present⟩, due.running, now, due.read, _, _,
    Schedule.call_eq_ok.mpr ⟨due.nonnegative, due.due, rfl, rfl⟩, rfl⟩

theorem GoesOff.perform (due : state.GoesOff slot timer now) :
    (Operation.timer (some slot) .call).perform state =
      ⟨.called .ok (timer.firing now).record, state.called slot timer now,
        (timer.firing now).body⟩ := by
  have performed := callTimer_of_ok due.callTimer
  have left : state.committed ⟨timer.firing now,
      state.objects.setTimer (.caller slot) (some (timer.called now)), []⟩ =
        state.called slot timer now := by
    simp only [committed, write, List.append_nil, called]
  rw [left] at performed
  exact performed

theorem isOk_call_iff : ((Operation.timer (some slot) .call).perform state).answer.isOk = true ↔
    ∃ timer now, state.GoesOff slot timer now := by
  constructor
  · intro accepted
    obtain ⟨commit, outcome⟩ := isOk_callTimer_iff.mp accepted
    obtain ⟨_, timer, ⟨here, present⟩, running, now, read, _, _, called, _⟩ :=
      Verdict.callTimer_eq_ok.mp outcome
    cases here
    obtain ⟨nonnegative, due, _⟩ := Schedule.call_eq_ok.mp called
    exact ⟨timer, now, present, running, read, nonnegative, due⟩
  · rintro ⟨timer, now, due⟩
    rw [due.perform]
    rfl

theorem respond_uninitialized {α : Type} {call : Call α} {verdict : Verdict α}
    [Settles call Fault.status verdict] {output : α → Option Value}
    (refused : verdict state = .error .timerUninitialized) :
    ∃ after, state.respond call output = ⟨.status .timerInvalid none, after, []⟩ ∧
      after.objects = state.objects :=
  ⟨_, respond_of_error refused, rfl⟩

theorem answersAs_of_absent (absent : state.objects.timers (.caller slot) = none) :
    state.AnswersAs slot TimerCall.absentAnswer? := by
  have missing : Verdict.findTimer (pointerTo (some slot)) state = .error .timerUninitialized :=
    Verdict.findTimer_of_none absent
  apply AnswersAs.of_perform
  intro request answer given
  cases request with
  | call =>
    cases given
    have refused : Verdict.callTimer (pointerTo (some slot)) state =
        .error .timerUninitialized := by
      simp only [Verdict.callTimer, missing, bind, Except.bind]
    exact ⟨_, callTimer_of_error refused, rfl⟩
  | reset | cancel =>
    cases given
    apply respond_uninitialized
    simp only [Verdict.resetTimer, Verdict.cancelTimer, missing, bind, Except.bind]
  | isReady output | isCanceled output | untilNextCall output | sinceLastCall output
  | period output | exchangePeriod next output =>
    cases output with
    | false => cases given
    | true =>
      cases given
      apply respond_uninitialized
      simp only [Verdict.timerIsReady, Verdict.timerIsCanceled, Verdict.timeUntilNextCall,
        Verdict.timeSinceLastCall, Verdict.timerPeriod, Verdict.exchangePeriod,
        Verdict.requireOutput, missing, bind, Except.bind, ↓reduceIte]
  | fini => cases given

end State

/-- The call of a timer goes through exactly if the timer goes off. Then its callback starts from
the state with the new last call and the deadline that catches up, and the call is through when the
callback is: it answers `ok` and leaves the state that the callback leaves, with the diagnostic that
is pending there. So the timer is what the last event of the callback has made of it: after a
cancellation it answers as a canceled one, and after a release as one that is not there. -/
theorem callback_loses_no_update (state : State) (slot : Slot) (depth : Nat) :
    ((run (depth + 1) (.timer (some slot) .call) state).1.answer.isOk = true ↔
      ∃ timer now, state.GoesOff slot timer now) ∧
    ∀ timer now, state.GoesOff slot timer now →
      let started := state.called slot timer now
      let replies := (runEach (run depth) (timer.firing now).body started).1
      let ended := (runEach (run depth) (timer.firing now).body started).2
      run (depth + 1) (.timer (some slot) .call) state =
        (⟨.timer (some slot) .call, .called .ok (timer.firing now).record, replies,
          ended.pending⟩, ended) ∧
      CatchesUp timer.schedule.nextCall timer.schedule.period now
        (timer.called now).schedule.nextCall ∧
      ((∀ record ∈ Reply.recordsEach replies, timerEventOf slot record = .untouched) →
        ended.objects.timers (.caller slot) = some (timer.called now)) ∧
      (∀ first last later, Reply.recordsEach replies = first ++ last :: later →
        (∀ record ∈ later, timerEventOf slot record = .untouched) →
        (timerEventOf slot last).Makes (started.after (first.map Prod.fst))
          ((started.after (first.map Prod.fst)).objects.timers (.caller slot))
          (ended.objects.timers (.caller slot)) ∧
        (timerEventOf slot last = .fini → ended.AnswersAs slot TimerCall.absentAnswer?)) ∧
      ∀ earlier, IsCanceledSince slot (Reply.recordsEach replies) earlier →
        ended.AnswersAs slot TimerCall.canceledAnswer? := by
  constructor
  · rw [answer_run]
    exact State.isOk_call_iff
  intro timer now due started replies ended
  have told := records_runEach depth (timer.firing now).body started
  have reached : ended = started.after (started.trace depth (timer.firing now).body) :=
    runEach_state (run depth) (run_state depth) _ _
  rw [reached]
  refine ⟨?_, catchesUp_nextDeadline due.due, ?_, ?_, ?_⟩
  · -- Nothing is written behind the callback: the run ends in the state in which its body ends.
    rw [← reached]
    simp only [run, due.perform]
    rfl
  · intro quiet
    rw [told] at quiet
    exact (timers_after_untouched _ quiet).trans (replace_self _ _ _)
  · intro first last later split quiet
    rw [told] at split
    have made := timer_after_last split quiet
    refine ⟨made, fun released => ?_⟩
    rw [released] at made
    exact State.answersAs_of_absent made
  · intro earlier since
    have whole := map_fst_records depth (timer.firing now).body started
    have past : (started.moments ((Reply.recordsEach replies).map Prod.fst)).map Moment.record =
        Reply.recordsEach replies := by
      rw [whole]
      exact told.symm
    obtain ⟨_, _, canceled⟩ := since.isCanceledAt past
    rw [whole] at canceled
    exact .of_perform canceled.answers

/-- A callback that calls its timer before it is due again, sets its clock, makes the time that has
passed its period and cancels it, and then releases the clock and fails to reset the timer. -/
def meddlingBody (elapsed : Nanos) : List Operation :=
  [.timer (some 1) .call, .clock (some 2) (.setOverride (.clamp 50)),
    .timer (some 1) (.exchangePeriod elapsed true), .timer (some 1) .cancel,
    .clock (some 2) .fini, .timer (some 1) .reset]

/-- A timer with that callback, on a clock that has come to 35. -/
def stateBeforeMeddling : State :=
  stateWithTimer.after
    [.timer (some 1) .fini,
      .initTimer (some 1) (some 2) (some 3) (.clamp 10) (some 7) meddlingBody,
      .clock (some 2) (.setOverride (.clamp 35))]

/-- This timer as it is before the call. -/
def meddledTimer : Timer :=
  ⟨.caller 2, some (.script 7 meddlingBody), .start (.clamp 10) .zero⟩

/-- All that is told of the callback. -/
def meddlingRecords : List (Operation × Answer) :=
  Reply.recordsEach
    (runEach (run 2) (meddlingBody (.clamp 35))
      (stateBeforeMeddling.called 1 meddledTimer (.clamp 35))).1

/-- The call answers `ok`, and the timer is found canceled, with the period that the callback gave
it and the deadline of the call. -/
theorem callback_loses_no_update_meddling :
    stateBeforeMeddling.GoesOff 1 meddledTimer (.clamp 35) ∧
      (run 3 (.timer (some 1) .call) stateBeforeMeddling).1.answer =
        .called .ok (some (7, .clamp 35)) ∧
      (run 3 (.timer (some 1) .call) stateBeforeMeddling).2.objects.timers (.caller 1) =
        some { meddledTimer with schedule := ⟨.clamp 35, .clamp 35, .clamp 40, true⟩ } := by
  have due : stateBeforeMeddling.GoesOff 1 meddledTimer (.clamp 35) :=
    ⟨rfl, rfl, rfl, by decide, by decide⟩
  obtain ⟨same, _, _, made, _⟩ := (callback_loses_no_update stateBeforeMeddling 1 2).2 _ _ due
  have split : meddlingRecords = meddlingRecords.take 3 ++
      (.timer (some 1) .cancel, .status .ok none) ::
        [(.clock (some 2) .fini, .status .ok none),
          (.timer (some 1) .reset, .status .error none)] := by
    rfl
  have quiet : ∀ record ∈ [(Operation.clock (some 2) .fini, Answer.status .ok none),
      (.timer (some 1) .reset, .status .error none)], timerEventOf 1 record = .untouched :=
    List.forall_mem_cons.mpr ⟨rfl, List.forall_mem_singleton.mpr rfl⟩
  obtain ⟨timer, before, after⟩ := (made _ _ _ split quiet).1
  have found : ((stateBeforeMeddling.called 1 meddledTimer (.clamp 35)).after
      ((meddlingRecords.take 3).map Prod.fst)).objects.timers (.caller 1) =
        some { meddledTimer with schedule := ⟨.clamp 35, .clamp 35, .clamp 40, false⟩ } := by
    rfl
  rw [← Option.some.inj (found.symm.trans before)] at after
  rw [same]
  exact ⟨due, rfl, after⟩

end RosClient
