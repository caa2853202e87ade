import RosClient.Proofs.Diagnostic.Operation
import RosClient.Proofs.Timer.Function

namespace RosClient

/-- An operation with the look at the operating system's clocks that it gets. -/
structure GivenStep where
  real : RealTime
  operation : Operation

/-- The state with what the operating system's clocks read from now on. -/
def State.given (state : State) (real : RealTime) : State :=
  { state with readings := fun _ => real }

/-- Runs operations one after the other, each with its own look at the clocks. -/
def runGiven (depth : Nat) : List GivenStep → State → List Reply × State
  | [], state => ([], state)
  | step :: rest, state =>
    let (reply, state) := run depth step.operation (state.given step.real)
    let (replies, state) := runGiven depth rest state
    (reply :: replies, state)

theorem runGiven_cons_of_no_body (depth : Nat) {step : GivenStep} {state : State}
    (noBody : (step.operation.perform (state.given step.real)).body = [])
    (rest : List GivenStep) :
    let effect := step.operation.perform (state.given step.real)
    runGiven depth (step :: rest) state =
      (⟨step.operation, effect.answer, [], effect.state.pending⟩ ::
        (runGiven depth rest effect.state).1, (runGiven depth rest effect.state).2) := by
  simp only [runGiven, run_of_no_body noBody]

/-- The operation of a moment with the look that it gets there. -/
def Moment.givenStep (moment : Moment) : GivenStep :=
  ⟨moment.state.realTime, moment.operation⟩

/-- The callbacks of the caller's timers have nothing to run. -/
def State.HasIdleCallbacks (state : State) : Prop :=
  ∀ slot timer callback, state.objects.timers (.caller slot) = some timer →
    timer.callback = some callback → ∀ elapsed, callback.body elapsed = []

/-- Whether an operation gives no timer a callback that has something to run. -/
def Operation.IsIdle : Operation → Prop
  | initTimer _ _ _ _ _ body => ∀ elapsed, body elapsed = []
  | _ => True

theorem body_of_initialised {operation : Operation} {slot : Slot} {clock : Place} {period : Nanos}
    {given : Option Callback} (isIdle : operation.IsIdle)
    (event : operation.timerEvent slot = .init clock period given) :
    ∀ callback, given = some callback → ∀ elapsed, callback.body elapsed = [] := by
  unfold Operation.timerEvent at event
  split at event
  · split at event
    · cases event
      intro callback made
      obtain ⟨token, _, rfl⟩ := Option.map_eq_some_iff.mp made
      exact isIdle
    · cases event
  · next target request =>
    split at event
    · exact absurd event (request.event_ne_init _ _ _)
    · cases event
  · cases event

namespace State.HasIdleCallbacks

variable {state : State} (idle : state.HasIdleCallbacks)

include idle

theorem perform {operation : Operation} (isIdle : operation.IsIdle) :
    (operation.perform state).state.HasIdleCallbacks := by
  intro slot timer callback present given
  have made := Moment.timer_after ⟨state, operation⟩ slot
  rw [show (Moment.after ⟨state, operation⟩).objects.timers (.caller slot) = some timer from
    present] at made
  rcases made.callback with ⟨clock, period, event⟩ | ⟨earlier, found, same⟩
  · unfold Moment.timerEvent at event
    split at event
    · exact body_of_initialised isIdle event callback given
    · cases event
  · exact idle slot earlier callback found (same.trans given)

theorem body (operation : Operation) : (operation.perform state).body = [] := by
  cases called : operation.isTimerCall with
  | false => exact operation.body_of_not_isTimerCall state called
  | true =>
    obtain ⟨target, rfl⟩ : ∃ target, operation = .timer target .call := by
      unfold Operation.isTimerCall at called
      split at called
      · exact ⟨_, rfl⟩
      · cases called
    cases target with
    | none => rfl
    | some slot => exact body_callTimer (idle slot)

theorem run (depth : Nat) (operation : Operation) :
    RosClient.run depth operation state =
      (⟨operation, (operation.perform state).answer, [],
        (operation.perform state).state.pending⟩, (operation.perform state).state) :=
  run_of_no_body (idle.body operation) depth

end State.HasIdleCallbacks

/-- The effect with what the operating system's clocks read from now on. -/
def Effect.given (effect : Effect) (real : RealTime) : Effect :=
  { effect with state := effect.state.given real }

theorem respond_given {α : Type} {call : Call α} {verdict : Verdict α}
    [Settles call Fault.status verdict] {state : State} {output : α → Option Value}
    (same : verdict (state.given state.realTime) = verdict state) :
    (state.given state.realTime).respond call output =
      (state.respond call output).given state.realTime := by
  cases outcome : verdict state with
  | error fault =>
    rw [State.respond_of_error outcome, State.respond_of_error (same.trans outcome)]
    rfl
  | ok commit =>
    rw [State.respond_of_ok outcome, State.respond_of_ok (same.trans outcome)]
    rfl

section

variable (state : State)

theorem callTimer_given (timer : Option Place) :
    TimerCall.call.perform timer (state.given state.realTime) =
      (TimerCall.call.perform timer state).given state.realTime := by
  have same : Verdict.callTimer timer (state.given state.realTime) =
      Verdict.callTimer timer state := rfl
  cases outcome : Verdict.callTimer timer state with
  | error fault =>
    rw [State.callTimer_of_error outcome, State.callTimer_of_error (same.trans outcome)]
    rfl
  | ok commit =>
    rw [State.callTimer_of_ok outcome, State.callTimer_of_ok (same.trans outcome)]
    rfl

theorem unparsed_given (context : Option Place) (index : Nat) :
    (ContextCall.unparsed index).perform context (state.given state.realTime) =
      ((ContextCall.unparsed index).perform context state).given state.realTime := by
  have same : Verdict.unparsedArgument context index (state.given state.realTime) =
      Verdict.unparsedArgument context index state := rfl
  cases outcome : Verdict.unparsedArgument context index state with
  | error fault =>
    simp only [ContextCall.perform, State.perform_of_error outcome,
      State.perform_of_error (same.trans outcome)]
    rfl
  | ok commit =>
    simp only [ContextCall.perform, State.perform_of_ok outcome,
      State.perform_of_ok (same.trans outcome)]
    rfl

/-- An operation does the same if the look that it gets is given with it. -/
theorem Operation.perform_given (operation : Operation) :
    operation.perform (state.given state.realTime) =
      (operation.perform state).given state.realTime := by
  cases operation with
  | errorIsSet | errorText | resetError | otherThread | setVariable | installLogger | refuse => rfl
  | options target request => cases request <;> exact respond_given rfl
  | initContext count vector given target =>
    simp only [Operation.perform]
    split
    · exact respond_given rfl
    · rfl
  | context target request =>
    cases request with
    | isValid | instanceId => rfl
    | unparsed index => exact unparsed_given state _ index
    | shutdown | domainId | unparsedCount | fini => exact respond_given rfl
  | clock target request =>
    cases request with
    | isValid | fields => rfl
    | setType type => cases target <;> rfl
    | init | now | enableOverride | disableOverride | isOverrideEnabled | setOverride | fini =>
      exact respond_given rfl
  | initTimer => exact respond_given rfl
  | timer target request =>
    cases request with
    | call => exact callTimer_given state _
    | isReady | isCanceled | reset | cancel | untilNextCall | sinceLastCall | period
    | exchangePeriod | fini => exact respond_given rfl

end

/-- A run in which no callback has anything to run is a run with the looks that its operations
get. -/
theorem runEach_eq_runGiven {state other : State} (idle : state.HasIdleCallbacks) (depth : Nat)
    (operations : List Operation) (isIdle : ∀ operation ∈ operations, operation.IsIdle)
    (alike : ∀ real, other.given real = state.given real) :
    (runEach (run depth) operations state).1 =
      (runGiven depth ((state.moments operations).map Moment.givenStep) other).1 := by
  induction operations generalizing state other with
  | nil => rfl
  | cons operation rest ih =>
    have next := @ih (operation.perform state).state
      ((operation.perform state).state.given state.realTime)
      (idle.perform (isIdle operation List.mem_cons_self))
      (fun later member => isIdle later (List.mem_cons_of_mem _ member)) fun _ => rfl
    have reached := operation.perform_given state
    have still : (state.given state.realTime).HasIdleCallbacks := idle
    simp only [State.moments, List.map_cons, Moment.givenStep, runEach, runGiven, idle.run, alike,
      still.run, reached]
    exact congrArg (_ :: ·) next

end RosClient
