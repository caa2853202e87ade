import RosClient.Proofs.Operation.Refused
import RosClient.Proofs.Timer.Deadline
import RosClient.Proofs.Timer.Event

namespace RosClient

/-- Whether what was asked and answered ends the cancellation of a timer: a reset or a release that
went through. -/
def endsCancellation (slot : Slot) (record : Operation × Answer) : Bool :=
  match timerEventOf slot record with
  | .reset | .fini => true
  | _ => false

/-- A history in which the timer of a slot was canceled, after an earlier part, and has been neither
reset nor released since. -/
def IsCanceledSince (slot : Slot) (history earlier : List (Operation × Answer)) : Prop :=
  ∃ cancellation between, history = earlier ++ cancellation :: between ∧
    timerEventOf slot cancellation = .cancel ∧
    ∀ record ∈ between, endsCancellation slot record = false

/-- What a canceled timer answers, whatever its clock reads. -/
def TimerCall.canceledAnswer? : TimerCall → Option Answer
  | call => some (.called .timerCanceled none)
  | untilNextCall true => some (.status .timerCanceled none)
  | isReady true => some (.status .ok (some (.flag false)))
  | isCanceled true => some (.status .ok (some (.flag true)))
  | _ => none

namespace State

/-- Some requests for the timer of a slot have a settled answer; they run no callback and change no
object. -/
def AnswersAs (state : State) (slot : Slot) (settled? : TimerCall → Option Answer) : Prop :=
  ∀ request answer, settled? request = some answer → ∀ depth,
    (run depth (.timer (some slot) request) state).1.answer = answer ∧
      (run depth (.timer (some slot) request) state).1.inner = [] ∧
      (run depth (.timer (some slot) request) state).2.objects = state.objects

/-- The last call and the deadline of the timer of a slot. -/
def timerCalls? (state : State) (slot : Slot) : Option (Nanos × Nanos) :=
  (state.objects.timers (.caller slot)).map fun timer =>
    (timer.schedule.lastCall, timer.schedule.nextCall)

/-- The timer of a slot is canceled, with a last call and a deadline. -/
def IsCanceledAt (state : State) (slot : Slot) (calls : Nanos × Nanos) : Prop :=
  ∃ timer, state.objects.timers (.caller slot) = some timer ∧ timer.schedule.canceled = true ∧
    (timer.schedule.lastCall, timer.schedule.nextCall) = calls

/-- Whoever asks is told that the timer of a slot is canceled. -/
def TellsCanceled (state : State) (slot : Slot) : Prop :=
  ((Operation.timer (some slot) (.isCanceled true)).perform state).answer =
    .status .ok (some (.flag true))

variable {state : State} {slot : Slot} {calls : Nanos × Nanos}

theorem IsCanceledAt.timerCalls? (canceled : state.IsCanceledAt slot calls) :
    state.timerCalls? slot = some calls := by
  obtain ⟨timer, present, _, same⟩ := canceled
  simp only [State.timerCalls?, present, Option.map_some, same]

theorem IsCanceledAt.answers (canceled : state.IsCanceledAt slot calls) {request : TimerCall}
    {answer : Answer} (given : request.canceledAnswer? = some answer) :
    ∃ after, (Operation.timer (some slot) request).perform state = ⟨answer, after, []⟩ ∧
      after.objects = state.objects := by
  obtain ⟨timer, present, stopped, _⟩ := canceled
  have found := Verdict.findTimer_of_some present
  unfold TimerCall.canceledAnswer? at given
  split at given
  · cases given
    have refused : Verdict.callTimer (some (.caller slot)) state = .error .timerCanceled := by
      simp only [Verdict.callTimer, found, stopped, bind, Except.bind, ↓reduceIte]
    exact ⟨_, callTimer_of_error refused, rfl⟩
  · cases given
    have refused : Verdict.timeUntilNextCall (some (.caller slot)) true state =
        .error .timerCanceled := by
      simp only [Verdict.timeUntilNextCall, Verdict.requireOutput, found, stopped, bind,
        Except.bind, ↓reduceIte]
    exact ⟨_, respond_of_error refused, rfl⟩
  · cases given
    have looked : Verdict.timerIsReady (some (.caller slot)) true state =
        .ok (state.answer false) := by
      simp only [Verdict.timerIsReady, Verdict.requireOutput, found, stopped, bind, Except.bind,
        ↓reduceIte]
    exact ⟨_, respond_of_ok looked, rfl⟩
  · cases given
    have looked : Verdict.timerIsCanceled (some (.caller slot)) true state =
        .ok (state.answer true) :=
      Verdict.timerIsCanceled_eq_ok.mpr ⟨rfl, _, timer, ⟨rfl, present⟩, by rw [stopped]⟩
    exact ⟨_, respond_of_ok looked, rfl⟩
  · cases given

theorem AnswersAs.of_perform {settled? : TimerCall → Option Answer}
    (performed : ∀ {request answer}, settled? request = some answer → ∃ after,
      (Operation.timer (some slot) request).perform state = ⟨answer, after, []⟩ ∧
        after.objects = state.objects) : state.AnswersAs slot settled? := by
  intro request answer given depth
  obtain ⟨after, same, kept⟩ := performed given
  rw [run_of_no_body (by rw [same]), same]
  exact ⟨rfl, rfl, kept⟩

theorem tellsCanceled_iff :
    state.TellsCanceled slot ↔ ∃ calls, state.IsCanceledAt slot calls := by
  constructor
  · intro told
    have accepted : ((Operation.timer (some slot) (.isCanceled true)).perform
        state).answer.isOk = true := by
      rw [told]
      rfl
    obtain ⟨commit, outcome⟩ := isOk_respond_iff.mp accepted
    obtain ⟨_, _, timer, ⟨here, present⟩, rfl⟩ := Verdict.timerIsCanceled_eq_ok.mp outcome
    cases here
    have answered : ((Operation.timer (some slot) (.isCanceled true)).perform state).answer =
        .status .ok (some (.flag timer.schedule.canceled)) :=
      congrArg Effect.answer (respond_of_ok outcome)
    have stopped : timer.schedule.canceled = true := by
      simpa using answered.symm.trans told
    exact ⟨_, timer, present, stopped, rfl⟩
  · rintro ⟨calls, canceled⟩
    obtain ⟨after, performed, _⟩ := canceled.answers
      (show (TimerCall.isCanceled true).canceledAnswer? = some _ from rfl)
    rw [TellsCanceled, performed]

end State

variable {state : State} {slot : Slot} {calls : Nanos × Nanos}

/-- A timer is canceled after an operation if that has canceled it, or if it was canceled before and
the operation is not its end. -/
theorem Moment.isCanceledAt_after (moment : Moment) :
    moment.after.IsCanceledAt slot calls ↔
      (timerEventOf slot moment.record = .cancel ∧ moment.state.timerCalls? slot = some calls) ∨
      (moment.state.IsCanceledAt slot calls ∧ endsCancellation slot moment.record = false) := by
  have made := moment.timer_after slot
  have same : timerEventOf slot moment.record = moment.timerEvent slot := rfl
  unfold endsCancellation State.IsCanceledAt State.timerCalls?
  rw [same]
  cases event : moment.timerEvent slot with
  | untouched =>
    rw [event] at made
    simp [show moment.after.objects.timers _ = _ from made]
  | init clock period callback =>
    rw [event] at made
    obtain ⟨absent, _, now, _, left⟩ := made
    simp [absent, left, Schedule.start]
  | call =>
    rw [event] at made
    obtain ⟨timer, present, running, now, _, elapsed, schedule, called, left⟩ := made
    obtain ⟨_, _, _, rfl⟩ := Schedule.call_eq_ok.mp called
    simp [present, left, running]
  | reset =>
    rw [event] at made
    obtain ⟨timer, present, now, _, left⟩ := made
    simp [left, Schedule.reset, Schedule.start]
  | cancel =>
    rw [event] at made
    obtain ⟨timer, present, left⟩ := made
    simp [present, left, Schedule.cancel]
  | exchange period =>
    rw [event] at made
    obtain ⟨timer, present, _, left⟩ := made
    simp [present, left, Schedule.withPeriod]
  | fini =>
    rw [event] at made
    simp [show moment.after.objects.timers _ = _ from made]

/-- A canceled timer is still canceled after operations none of which is the end of it. -/
theorem State.IsCanceledAt.after_run (canceled : state.IsCanceledAt slot calls)
    (operations : List Operation)
    (lasting : ∀ record ∈ (state.moments operations).map Moment.record,
      endsCancellation slot record = false) :
    (state.after operations).IsCanceledAt slot calls := by
  induction operations generalizing state with
  | nil => exact canceled
  | cons operation rest ih =>
    have kept := (Moment.isCanceledAt_after ⟨state, operation⟩).mpr
      (Or.inr ⟨canceled, lasting _ List.mem_cons_self⟩)
    exact ih kept fun record member => lasting record (List.mem_cons_of_mem _ member)

theorem State.IsCanceledAt.since (operations : List Operation)
    (canceled : (state.after operations).IsCanceledAt slot calls) :
    (∃ earlier, IsCanceledSince slot ((state.moments operations).map Moment.record) earlier) ∨
      (state.IsCanceledAt slot calls ∧
        ∀ record ∈ (state.moments operations).map Moment.record,
          endsCancellation slot record = false) := by
  induction operations generalizing state with
  | nil => exact Or.inr ⟨canceled, fun _ absurd => nomatch absurd⟩
  | cons operation rest ih =>
    have first := @Moment.isCanceledAt_after slot calls ⟨state, operation⟩
    -- A cancellation in the rest is one in the whole; without one the first operation decides.
    rcases ih canceled with ⟨earlier, cancellation, between, split, since⟩ | ⟨before, lasting⟩
    · exact Or.inl ⟨_ :: earlier, cancellation, between, congrArg (_ :: ·) split, since⟩
    · rcases first.mp before with ⟨canceling, _⟩ | ⟨already, spared⟩
      · exact Or.inl ⟨[], _, _, rfl, canceling, lasting⟩
      · exact Or.inr ⟨already, List.forall_mem_cons.mpr ⟨spared, lasting⟩⟩

theorem IsCanceledSince.isCanceledAt {history earlier : List (Operation × Answer)}
    (told : (state.moments (history.map Prod.fst)).map Moment.record = history)
    (since : IsCanceledSince slot history earlier) :
    ∃ calls, (state.after (earlier.map Prod.fst)).timerCalls? slot = some calls ∧
      (state.after (history.map Prod.fst)).IsCanceledAt slot calls := by
  obtain ⟨cancellation, between, rfl, canceling, lasting⟩ := since
  obtain ⟨_, onwards⟩ := State.records_split told
  obtain ⟨same, behind⟩ := List.cons_eq_cons.mp onwards
  -- The moment of the cancellation, which finds the timer with the calls that it keeps.
  let moment : Moment := ⟨state.after (earlier.map Prod.fst), cancellation.1⟩
  have recorded : moment.record = cancellation := same.symm
  rw [← recorded] at canceling
  have made := moment.timer_after slot
  rw [show moment.timerEvent slot = .cancel from canceling] at made
  obtain ⟨timer, present, _⟩ := made
  have had : moment.state.timerCalls? slot =
      some (timer.schedule.lastCall, timer.schedule.nextCall) := by
    simp only [State.timerCalls?, present, Option.map_some]
  have canceled := moment.isCanceledAt_after.mpr (Or.inl ⟨canceling, had⟩)
  rw [behind] at lasting
  refine ⟨_, had, ?_⟩
  rw [List.map_append, List.map_cons, after_append]
  exact canceled.after_run _ lasting

/-- From a cancellation that goes through until a reset or a release that does, the last call and
the deadline of a timer stay, and it answers as a canceled timer whatever its clock reads; its
callback does not run. Whoever is told that a timer is canceled asks in such a time. -/
theorem cancel_lasts_until_reset (state : State) (slot : Slot) (depth : Nat)
    (operations : List Operation) {history rest : List (Operation × Answer)}
    (told : Reply.recordsEach (runEach (run depth) operations state).1 = history ++ rest) :
    let reached := state.after (history.map Prod.fst)
    (∀ earlier, IsCanceledSince slot history earlier →
      (∃ calls, (state.after (earlier.map Prod.fst)).timerCalls? slot = some calls ∧
        reached.timerCalls? slot = some calls) ∧
      reached.AnswersAs slot TimerCall.canceledAnswer? ∧
      ∀ request answer given later, request.canceledAnswer? = some answer →
        rest = (.timer (some slot) request, given) :: later → given = answer) ∧
    (reached.TellsCanceled slot →
      (∃ earlier, IsCanceledSince slot history earlier) ∨
      (state.TellsCanceled slot ∧ ∀ record ∈ history, endsCancellation slot record = false)) := by
  intro reached
  rw [records_runEach] at told
  obtain ⟨past, future⟩ := State.records_split told
  constructor
  · intro earlier since
    obtain ⟨calls, had, canceled⟩ := since.isCanceledAt past.symm
    refine ⟨⟨calls, had, canceled.timerCalls?⟩, .of_perform canceled.answers, ?_⟩
    rintro request answer given later settled rfl
    obtain ⟨after, performed, _⟩ := canceled.answers settled
    obtain ⟨same, _⟩ := List.cons_eq_cons.mp future
    exact (congrArg Prod.snd same).trans (congrArg Effect.answer performed)
  · intro asked
    obtain ⟨calls, canceled⟩ := State.tellsCanceled_iff.mp asked
    rcases State.IsCanceledAt.since _ canceled with since | ⟨before, lasting⟩
    · rw [← past] at since
      exact Or.inl since
    · rw [← past] at lasting
      exact Or.inr ⟨State.tellsCanceled_iff.mpr ⟨calls, before⟩, lasting⟩

/-- The callback of a timer cancels it and calls it again; then its clock is released, a reset fails
and the period is exchanged. -/
def stoppedRun : List Operation :=
  [.timer (some 1) .fini,
    .initTimer (some 1) (some 2) (some 3) (.clamp 10) (some 7)
      fun _ => [.timer (some 1) .cancel, .timer (some 1) .call],
    .clock (some 2) (.setOverride (.clamp 35)), .timer (some 1) .call, .clock (some 2) .fini,
    .timer (some 1) .reset, .timer (some 1) (.exchangePeriod (.clamp 5) true),
    .timer (some 1) .call]

/-- All that is told of this run. -/
def stoppedRecords : List (Operation × Answer) :=
  Reply.recordsEach (runEach (run 3) stoppedRun stateWithTimer).1

/-- The cancellation in the callback lasts to the end, with the deadline that the call had set. -/
theorem cancel_lasts_until_reset_in_callback :
    IsCanceledSince 1 (stoppedRecords.take 9) (stoppedRecords.take 4) ∧
      (stateWithTimer.after ((stoppedRecords.take 4).map Prod.fst)).timerCalls? 1 =
        some (.clamp 35, .clamp 40) ∧
      (stateWithTimer.after ((stoppedRecords.take 9).map Prod.fst)).timerCalls? 1 =
        some (.clamp 35, .clamp 40) ∧
      (run 3 (.timer (some 1) .call)
        (stateWithTimer.after ((stoppedRecords.take 9).map Prod.fst))).1.answer =
          .called .timerCanceled none := by
  have since : IsCanceledSince 1 (stoppedRecords.take 9) (stoppedRecords.take 4) := by
    refine ⟨stoppedRecords[4], (stoppedRecords.drop 5).take 4, rfl, rfl, ?_⟩
    have lasting : ((stoppedRecords.drop 5).take 4).all
        (fun record => !endsCancellation 1 record) = true := by
      rfl
    exact fun record member => by simpa using List.all_eq_true.mp lasting record member
  have set : (stateWithTimer.after ((stoppedRecords.take 4).map Prod.fst)).timerCalls? 1 =
      some (.clamp 35, .clamp 40) := by
    rfl
  have lasts := cancel_lasts_until_reset stateWithTimer 1 3 stoppedRun
    (List.take_append_drop 9 stoppedRecords).symm
  obtain ⟨⟨calls, had, kept⟩, answers, _⟩ := lasts.1 _ since
  rw [set] at had
  cases had
  exact ⟨since, set, kept, (answers .call _ rfl 3).1⟩

end RosClient
