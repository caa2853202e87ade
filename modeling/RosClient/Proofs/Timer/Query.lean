import RosClient.Proofs.Verdict.Timer
import RosClient.Proofs.Diagnostic.Fault
import RosClient.Proofs.Operation.Refused
import RosClient.Proofs.Timer.Deadline

namespace RosClient

/-- The next call finds a timer at a place, and the clock of the timer with something to read or a
fault. -/
structure State.Finds (state : State) (place : Place) (timer : Timer)
    (reading : Except Fault Nanos) : Prop where
  present : state.objects.timers place = some timer
  read : state.readClock timer.clock = reading

/-- Whether a request to a running timer needs a reading of its clock. -/
def TimerCall.readsClock : TimerCall → Bool
  | call | reset => true
  | isReady output | untilNextCall output | sinceLastCall output => output
  | _ => false

theorem Clock.status_of_readReal_error {reading : Except String Nanos} {fault : Fault}
    (unread : Clock.readReal reading = .error fault) : fault.status = .error := by
  cases reading with
  | ok now => cases unread
  | error reason =>
    cases unread
    rfl

theorem Clock.status_of_read_error {clock : Clock} {real : RealTime} {fault : Fault}
    (unread : clock.read real = .error fault) : fault.status = .error := by
  unfold Clock.read at unread
  split at unread
  · split at unread
    · cases unread
      rfl
    · unfold Clock.readRosTime at unread
      split at unread
      · split at unread
        · cases unread
        · exact status_of_readReal_error unread
      · exact status_of_readReal_error unread
    · exact status_of_readReal_error unread
    · exact status_of_readReal_error unread
  · cases unread
    rfl

theorem State.respond_refused {α : Type} {state : State} {call : Call α} {verdict : Verdict α}
    [Settles call Fault.status verdict] {fault : Fault} {output : α → Option Value}
    (refused : verdict state = .error fault) :
    (state.respond call output).answer.status? = some fault.status ∧
      (state.respond call output).state = state.refused fault := by
  rw [State.respond_of_error refused]
  exact ⟨rfl, rfl⟩

namespace State.Finds

variable {state : State} {place : Place} {timer : Timer} {now : Nanos} {fault : Fault}

theorem timerIsReady (found : state.Finds place timer (.ok now)) :
    Verdict.timerIsReady (some place) true state =
      .ok (state.answer (!timer.schedule.canceled && timer.schedule.isDue now)) := by
  simp only [Verdict.timerIsReady, Verdict.requireOutput, ↓reduceIte, bind, Except.bind,
    Verdict.findTimer_of_some found.present, found.read]
  cases timer.schedule.canceled <;> rfl

theorem timeSinceLastCall (found : state.Finds place timer (.ok now)) :
    Verdict.timeSinceLastCall (some place) true state =
      .ok (state.answer (timer.schedule.sinceLastCall now)) := by
  simp only [Verdict.timeSinceLastCall, Verdict.requireOutput, ↓reduceIte, bind, Except.bind,
    Verdict.findTimer_of_some found.present, found.read]

theorem timeUntilNextCall (found : state.Finds place timer (.ok now))
    (running : timer.schedule.canceled = false) :
    Verdict.timeUntilNextCall (some place) true state =
      .ok (state.answer (timer.schedule.untilNextCall now)) := by
  simp only [Verdict.timeUntilNextCall, Verdict.requireOutput, ↓reduceIte, bind, Except.bind,
    Verdict.findTimer_of_some found.present, running, Bool.false_eq_true, found.read]

theorem callTimer_iff (found : state.Finds place timer (.ok now)) :
    (∃ commit, Verdict.callTimer (some place) state = .ok commit) ↔
      timer.schedule.canceled = false ∧ 0 ≤ now.value ∧
        timer.schedule.nextCall.value ≤ now.value := by
  constructor
  · rintro ⟨commit, accepted⟩
    obtain ⟨_, _, ⟨here, there⟩, running, reading, read, _, _, called, _⟩ :=
      Verdict.callTimer_eq_ok.mp accepted
    cases here
    cases found.present.symm.trans there
    cases found.read.symm.trans read
    obtain ⟨nonnegative, due, _⟩ := Schedule.call_eq_ok.mp called
    exact ⟨running, nonnegative, due⟩
  · rintro ⟨running, nonnegative, due⟩
    have called := Schedule.call_eq_ok.mpr ⟨nonnegative, due, rfl, rfl⟩
    exact ⟨_, Verdict.callTimer_eq_ok.mpr
      ⟨place, timer, ⟨rfl, found.present⟩, running, now, found.read, _, _, called, rfl⟩⟩

theorem callTimer_of_early (found : state.Finds place timer (.ok now))
    (running : timer.schedule.canceled = false) (nonnegative : 0 ≤ now.value)
    (early : now.value < timer.schedule.nextCall.value) :
    Verdict.callTimer (some place) state =
      .error (.timerNotReady (timer.schedule.untilNextCall now)) := by
  simp only [Verdict.callTimer, bind, Except.bind, Verdict.findTimer_of_some found.present, running,
    Bool.false_eq_true, ↓reduceIte, found.read, Schedule.call_of_early nonnegative early]

theorem isOk_call_iff (found : state.Finds place timer (.ok now)) :
    (TimerCall.call.perform (some place) state).answer.isOk = true ↔
      (!timer.schedule.canceled && timer.schedule.isDue now) = true ∧ 0 ≤ now.value := by
  rw [State.isOk_callTimer_iff, found.callTimer_iff, Bool.and_eq_true, Bool.not_eq_true',
    Schedule.isDue, decide_eq_true_eq, and_assoc, and_comm (a := 0 ≤ now.value)]

/-- A running timer refuses a call at a time for one reason only: time remains, and the diagnostic
tells how much. -/
theorem call_of_not_isOk (found : state.Finds place timer (.ok now))
    (running : timer.schedule.canceled = false) (nonnegative : 0 ≤ now.value)
    (failed : (TimerCall.call.perform (some place) state).answer.isOk = false) :
    0 < (timer.schedule.untilNextCall now).value ∧
      TimerCall.call.perform (some place) state = ⟨.called .error none,
        state.refused (.timerNotReady (timer.schedule.untilNextCall now)), []⟩ := by
  have waiting : ¬ timer.schedule.isDue now = true := by
    intro due
    have accepted := found.isOk_call_iff.mpr ⟨by rw [running, due]; rfl, nonnegative⟩
    rw [failed] at accepted
    cases accepted
  have early : now.value < timer.schedule.nextCall.value := by
    simpa [Schedule.isDue] using waiting
  rw [Schedule.isDue_iff_untilNextCall, Int.not_le] at waiting
  exact ⟨waiting, State.callTimer_of_error (found.callTimer_of_early running nonnegative early)⟩

theorem refused_of_unread (found : state.Finds place timer (.error fault))
    (running : timer.schedule.canceled = false) {request : TimerCall}
    (needed : request.readsClock = true) :
    (request.perform (some place) state).answer.status? = some fault.status ∧
      (request.perform (some place) state).state = state.refused fault := by
  have there := Verdict.findTimer_of_some found.present
  have unread := found.read
  cases request with
  | call =>
    have refused : Verdict.callTimer (some place) state = .error fault := by
      simp only [Verdict.callTimer, bind, Except.bind, there, running, Bool.false_eq_true,
        ↓reduceIte, unread]
    rw [State.callTimer_of_error refused]
    exact ⟨rfl, rfl⟩
  | reset =>
    have refused : Verdict.resetTimer (some place) state = .error fault := by
      simp only [Verdict.resetTimer, bind, Except.bind, there, unread]
    exact State.respond_refused refused
  | isReady output =>
    cases needed
    have refused : Verdict.timerIsReady (some place) true state = .error fault := by
      simp only [Verdict.timerIsReady, Verdict.requireOutput, ↓reduceIte, bind, Except.bind, there,
        running, Bool.false_eq_true, unread]
    exact State.respond_refused refused
  | untilNextCall output =>
    cases needed
    have refused : Verdict.timeUntilNextCall (some place) true state = .error fault := by
      simp only [Verdict.timeUntilNextCall, Verdict.requireOutput, ↓reduceIte, bind, Except.bind,
        there,
        running, Bool.false_eq_true, unread]
    exact State.respond_refused refused
  | sinceLastCall output =>
    cases needed
    have refused : Verdict.timeSinceLastCall (some place) true state = .error fault := by
      simp only [Verdict.timeSinceLastCall, Verdict.requireOutput, ↓reduceIte, bind, Except.bind,
        there,
        unread]
    exact State.respond_refused refused
  | isCanceled | cancel | period | exchangePeriod | fini => cases needed

section

variable {reading : Except Fault Nanos} (found : state.Finds place timer reading) (output : Bool)

include found

theorem value_timerIsReady : (Verdict.timerIsReady (some place) output state).map Commit.value =
    Verdict.requireOutput "is_ready" output >>= fun _ =>
      if timer.schedule.canceled then .ok false else reading.map timer.schedule.isDue := by
  simp only [Verdict.timerIsReady, bind, Except.bind, Verdict.findTimer_of_some found.present,
    found.read]
  cases output <;> cases timer.schedule.canceled <;> cases reading <;> rfl

theorem value_timerIsCanceled :
    (Verdict.timerIsCanceled (some place) output state).map Commit.value =
      Verdict.requireOutput "is_canceled" output >>= fun _ => .ok timer.schedule.canceled := by
  simp only [Verdict.timerIsCanceled, bind, Except.bind, Verdict.findTimer_of_some found.present]
  cases output <;> rfl

theorem value_timeUntilNextCall :
    (Verdict.timeUntilNextCall (some place) output state).map Commit.value =
      Verdict.requireOutput "time_until_next_call" output >>= fun _ =>
        if timer.schedule.canceled then .error .timerCanceled
        else reading.map timer.schedule.untilNextCall := by
  simp only [Verdict.timeUntilNextCall, bind, Except.bind, Verdict.findTimer_of_some found.present,
    found.read]
  cases output <;> cases timer.schedule.canceled <;> cases reading <;> rfl

theorem value_timeSinceLastCall :
    (Verdict.timeSinceLastCall (some place) output state).map Commit.value =
      Verdict.requireOutput "time_since_last_call" output >>= fun _ =>
        reading.map timer.schedule.sinceLastCall := by
  simp only [Verdict.timeSinceLastCall, bind, Except.bind, Verdict.findTimer_of_some found.present,
    found.read]
  cases output <;> cases reading <;> rfl

end

end State.Finds

/-- At one reading of its clock a timer answers alike in whatever state it is asked. It can be
called exactly if it is ready and the reading is not negative. A running timer is ready exactly if
no time remains until its next call, and a call that comes too early names the time that remains.
Times are exact unless they leave the range. While the clock of a running timer cannot be read, all
that reads it is refused as an error. -/
theorem timer_queries_agree_with_call (place : Place) (timer : Timer) :
    (∀ now : Nanos, ∃ ready since,
      since = .clamp (now.value - timer.schedule.lastCall.value) ∧
      (∀ state : State, state.Finds place timer (.ok now) →
        ((TimerCall.isReady true).perform (some place) state).answer =
          .status .ok (some (.flag ready)) ∧
        ((TimerCall.sinceLastCall true).perform (some place) state).answer =
          .status .ok (some (.nanos since)) ∧
        ((TimerCall.call.perform (some place) state).answer.isOk = true ↔
          ready = true ∧ 0 ≤ now.value)) ∧
      (timer.schedule.canceled = false → ∃ remaining,
        remaining = .clamp (timer.schedule.nextCall.value - now.value) ∧
        (ready = true ↔ remaining.value ≤ 0) ∧
        ∀ state : State, state.Finds place timer (.ok now) →
          ((TimerCall.untilNextCall true).perform (some place) state).answer =
            .status .ok (some (.nanos remaining)) ∧
          (0 ≤ now.value → (TimerCall.call.perform (some place) state).answer.isOk = false →
            0 < remaining.value ∧
            (TimerCall.call.perform (some place) state).answer = .called .error none ∧
            (TimerCall.call.perform (some place) state).state.pending = some
              s!"timer is not ready to be called, next call in {remaining.value} ns"))) ∧
    (timer.schedule.canceled = false → ∀ (fault : Fault) (state : State),
      state.Finds place timer (.error fault) →
        ∀ request : TimerCall, request.readsClock = true →
          (request.perform (some place) state).answer.status? = some .error ∧
          (request.perform (some place) state).state = state.refused fault) := by
  constructor
  · intro now
    refine ⟨!timer.schedule.canceled && timer.schedule.isDue now, _, rfl, ?_, ?_⟩
    · intro state found
      refine ⟨?_, ?_, found.isOk_call_iff⟩
      · exact congrArg Effect.answer (State.respond_of_ok found.timerIsReady)
      · exact congrArg Effect.answer (State.respond_of_ok found.timeSinceLastCall)
    · intro running
      rw [running, Bool.not_false, Bool.true_and]
      refine ⟨_, rfl, Schedule.isDue_iff_untilNextCall, ?_⟩
      intro state found
      refine ⟨congrArg Effect.answer (State.respond_of_ok (found.timeUntilNextCall running)), ?_⟩
      intro nonnegative failed
      obtain ⟨waiting, refused⟩ := found.call_of_not_isOk running nonnegative failed
      rw [refused, State.pending_refused, Fault.diagnostic_timerNotReady]
      exact ⟨waiting, rfl, rfl⟩
  · intro running fault state found request needed
    obtain ⟨answered, left⟩ := found.refused_of_unread running needed
    rw [Clock.status_of_read_error found.read] at answered
    exact ⟨answered, left⟩

/-- A timer armed at 1000 for the whole range, whose deadline therefore stands at its end. -/
def timerForWholeRange : Timer where
  clock := .caller 2
  callback := some (.script 7 fun _ => [.timer (some 1) .cancel])
  schedule := ⟨.last, .clamp 1000, .last, false⟩

/-- This timer in slot 1, with its clock at a reading. -/
def stateAtReading (now : Nanos) : State :=
  stateWithTimer.after
    [.timer (some 1) (.exchangePeriod .last true), .clock (some 2) (.setOverride (.clamp 1000)),
      .timer (some 1) .reset, .clock (some 2) (.setOverride now)]

theorem stateAtReading_finds (now : Nanos) :
    (stateAtReading now).Finds (.caller 1) timerForWholeRange (.ok now) :=
  ⟨rfl, rfl⟩

/-- Before the start of time the time that remains leaves the range; at 500 it does not, and the
call that comes too early names it. Without its clock the timer tells nothing. -/
theorem timer_queries_agree_with_call_at_extremes :
    ((Operation.timer (some 1) (.untilNextCall true)).perform
        (stateAtReading (.clamp (-1)))).answer = .status .ok (some (.nanos .last)) ∧
      ((Operation.timer (some 1) (.untilNextCall true)).perform
        (stateAtReading (.clamp 500))).answer =
          .status .ok (some (.nanos (.clamp 9223372036854775307))) ∧
      ((Operation.timer (some 1) .call).perform (stateAtReading (.clamp 500))).state.pending =
        some "timer is not ready to be called, next call in 9223372036854775307 ns" ∧
      ((Operation.timer (some 1) .reset).perform ((stateAtReading (.clamp 500)).after
        [.clock (some 2) .fini])).answer.status? = some .error := by
  obtain ⟨told, untold⟩ := timer_queries_agree_with_call (.caller 1) timerForWholeRange
  obtain ⟨_, _, _, _, before⟩ := told (.clamp (-1))
  obtain ⟨_, rfl, _, saturated⟩ := before rfl
  obtain ⟨_, _, _, _, early⟩ := told (.clamp 500)
  obtain ⟨_, rfl, _, inside⟩ := early rfl
  obtain ⟨remaining, refused⟩ := inside _ (stateAtReading_finds (.clamp 500))
  obtain ⟨_, _, named⟩ := refused (by decide) rfl
  refine ⟨(saturated _ (stateAtReading_finds _)).1, remaining, named, ?_⟩
  exact (untold rfl .clockUnreadable _ ⟨rfl, rfl⟩ .reset rfl).1

end RosClient
