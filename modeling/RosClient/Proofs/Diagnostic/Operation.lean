import RosClient.Proofs.Diagnostic.Call
import RosClient.Proofs.Operation.Refused

namespace RosClient

/-- Whether an operation is a call on options, a context, a clock or a timer. -/
def Operation.isCall : Operation → Bool
  | options .. | initContext .. | context .. | initTimer .. | timer .. => true
  | clock _ (.setType _) | clock _ .fields => false
  | clock .. => true
  | errorIsSet | errorText | resetError | otherThread | setVariable .. | installLogger
  | refuse _ => false

/-- Whether an operation is a query that has no status. -/
def Operation.isPlainQuery : Operation → Bool
  | context _ .isValid | context _ .instanceId | clock _ .isValid => true
  | _ => false

/-- Whether an operation is the call of a timer. -/
def Operation.isTimerCall : Operation → Bool
  | timer _ .call => true
  | _ => false

/-- Whether an answer is that of a failure: a status other than `ok`, or no text of an argument. -/
def Answer.isFailure : Answer → Bool
  | status code _ | called code _ => code ≠ .ok
  | value .nothing => true
  | _ => false

namespace State

/-- What an effect shows of a call that was refused. -/
structure Failed (state : State) (fault : Fault) (effect : Effect) : Prop where
  failure : effect.answer.isFailure = true
  status : ∀ code, effect.answer.status? = some code → code = fault.status
  left : effect.state = state.refused fault
  body : effect.body = []

/-- What an effect shows of diagnostics if nothing was refused. -/
structure Passed (state : State) (effect : Effect) : Prop where
  success : effect.answer.isFailure = false
  untroubled : state.Untroubled effect.state

/-- An operation fails or goes through, and in the same way whatever diagnostic is pending. -/
inductive Diagnoses (state : State) (perform : State → Effect) : Prop where
  | fails (fault : Fault)
    (always : ∀ pending, { state with pending }.Failed fault (perform { state with pending }))
  | passes (always : ∀ pending, { state with pending }.Passed (perform { state with pending }))

theorem diagnoses_of_verdict {α : Type} {verdict : Verdict α} (plain : verdict.IsPlain)
    {perform : State → Effect}
    (fails : ∀ state fault, verdict state = .error fault → state.Failed fault (perform state))
    (passes : ∀ state commit, verdict state = .ok commit →
      (perform state).answer.isFailure = false ∧ (perform state).state = state.committed commit)
    (state : State) : state.Diagnoses perform := by
  have blind (pending : Option String) : verdict { state with pending } = verdict state :=
    plain.blind state pending state.log
  cases outcome : verdict state with
  | error fault =>
    exact .fails fault fun pending => fails _ fault ((blind pending).trans outcome)
  | ok commit =>
    refine .passes fun pending => ?_
    obtain ⟨success, same⟩ := passes _ commit ((blind pending).trans outcome)
    refine ⟨success, ?_⟩
    rw [same]
    exact ⟨rfl, commit.log, rfl, plain.quiet state commit outcome⟩

theorem isFailure_status (fault : Fault) (output : Option Value) :
    (Answer.status fault.status output).isFailure = true :=
  decide_eq_true fault.status_ne_ok

theorem diagnoses_respond {α : Type} {call : Call α} {verdict : Verdict α}
    [Settles call Fault.status verdict] (plain : verdict.IsPlain) (output : α → Option Value)
    (state : State) :
    state.Diagnoses (·.respond call output) := by
  refine diagnoses_of_verdict plain ?_ ?_ state
  · intro state fault refused
    rw [respond_of_error refused]
    refine ⟨isFailure_status fault none, ?_, rfl, rfl⟩
    intro code answered
    exact (Option.some.inj answered).symm
  · intro state commit accepted
    rw [respond_of_ok accepted]
    exact ⟨rfl, rfl⟩

theorem diagnoses_observe {answer : State → Answer}
    (noFailure : ∀ state, (answer state).isFailure = false) (state : State) :
    state.Diagnoses fun state => ⟨answer state, state, []⟩ :=
  .passes fun _ => ⟨noFailure _, Untroubled.refl _⟩

end State

open State

theorem Verdict.requestedDomain_isPlain (options : Option Place) (output : Bool) :
    (requestedDomain options output).IsPlain :=
  ⟨fun _ _ _ => rfl, (requestedDomain_looks options output).quiet⟩

section

variable (state : State)

theorem OptionsCall.diagnoses (options : Option Place) (request : OptionsCall) :
    state.Diagnoses (request.perform options ·) := by
  cases request with
  | init => exact diagnoses_respond (Verdict.initOptions_isPlain _) _ state
  | setDomain => exact diagnoses_respond (Verdict.setDomain_isPlain _ _) _ state
  | getDomain => exact diagnoses_respond (Verdict.requestedDomain_isPlain _ _) _ state
  | fini => exact diagnoses_respond (Verdict.finiOptions_isPlain _) _ state

theorem unparsed_diagnoses (context : Option Place) (index : Nat) :
    state.Diagnoses ((ContextCall.unparsed index).perform context ·) := by
  refine diagnoses_of_verdict (Verdict.unparsedArgument_isPlain context index) ?_ ?_ state
  · intro state fault refused
    simp only [ContextCall.perform, State.perform_of_error refused]
    refine ⟨rfl, ?_, rfl, rfl⟩
    intro code answered
    cases answered
  · intro state commit accepted
    simp only [ContextCall.perform, State.perform_of_ok accepted]
    exact ⟨rfl, rfl⟩

theorem ContextCall.diagnoses (context : Option Place) (request : ContextCall) :
    state.Diagnoses (request.perform context ·) := by
  cases request with
  | shutdown => exact diagnoses_respond (Verdict.shutdownContext_isPlain _) _ state
  | isValid | instanceId => exact diagnoses_observe (fun _ => rfl) state
  | domainId => exact diagnoses_respond (Verdict.contextDomain_isPlain _ _) _ state
  | unparsedCount => exact diagnoses_respond (Verdict.unparsedCount_isPlain _ _) _ state
  | unparsed index => exact unparsed_diagnoses state context index
  | fini => exact diagnoses_respond (Verdict.finiContext_isPlain _) _ state

theorem ClockCall.diagnoses (clock : Option Place) (request : ClockCall) (slot : Option Slot)
    (called : (Operation.clock slot request).isCall = true) :
    state.Diagnoses (request.perform clock ·) := by
  cases request with
  | init => exact diagnoses_respond (Verdict.initClock_isPlain _ _) _ state
  | isValid => exact diagnoses_observe (fun _ => rfl) state
  | now => exact diagnoses_respond (Verdict.clockNow_isPlain _ _) _ state
  | enableOverride | disableOverride | setOverride =>
    exact diagnoses_respond (Verdict.changeOverride_isPlain _ _ _) _ state
  | isOverrideEnabled => exact diagnoses_respond (Verdict.isOverrideEnabled_isPlain _ _) _ state
  | fini => exact diagnoses_respond (Verdict.finiClock_isPlain _) _ state
  | setType | fields => cases called

theorem callTimer_diagnoses (timer : Option Place) :
    state.Diagnoses (TimerCall.call.perform timer ·) := by
  refine diagnoses_of_verdict (Verdict.callTimer_isPlain timer) ?_ ?_ state
  · intro state fault refused
    rw [callTimer_of_error refused]
    refine ⟨isFailure_status fault none, ?_, rfl, rfl⟩
    intro code answered
    exact (Option.some.inj answered).symm
  · intro state commit accepted
    rw [callTimer_of_ok accepted]
    exact ⟨rfl, rfl⟩

theorem TimerCall.diagnoses (timer : Option Place) (request : TimerCall) :
    state.Diagnoses (request.perform timer ·) := by
  cases request with
  | call => exact callTimer_diagnoses state timer
  | isReady => exact diagnoses_respond (Verdict.timerIsReady_isPlain _ _) _ state
  | isCanceled => exact diagnoses_respond (Verdict.timerIsCanceled_isPlain _ _) _ state
  | reset => exact diagnoses_respond (Verdict.resetTimer_isPlain _) _ state
  | cancel => exact diagnoses_respond (Verdict.cancelTimer_isPlain _) _ state
  | untilNextCall => exact diagnoses_respond (Verdict.timeUntilNextCall_isPlain _ _) _ state
  | sinceLastCall => exact diagnoses_respond (Verdict.timeSinceLastCall_isPlain _ _) _ state
  | period => exact diagnoses_respond (Verdict.timerPeriod_isPlain _ _) _ state
  | exchangePeriod => exact diagnoses_respond (Verdict.exchangePeriod_isPlain _ _ _) _ state
  | fini => exact diagnoses_respond (Verdict.finiTimer_isPlain _) _ state

/-- Every call of the status level fails or goes through, whatever is pending. -/
theorem Operation.diagnoses (operation : Operation) (called : operation.isCall = true) :
    state.Diagnoses (operation.perform ·) := by
  cases operation with
  | options slot request => exact request.diagnoses state _
  | initContext count vector given target =>
    simp only [Operation.perform]
    split
    · exact diagnoses_respond (Verdict.initContext_isPlain ..) _ state
    · exact diagnoses_observe (fun _ => rfl) state
  | context slot request => exact request.diagnoses state _
  | clock slot request => exact request.diagnoses state _ slot called
  | initTimer => exact diagnoses_respond (Verdict.initTimer_isPlain ..) _ state
  | timer slot request => exact request.diagnoses state _
  | errorIsSet | errorText | resetError | otherThread | setVariable | installLogger | refuse =>
    cases called

end

theorem respond_body {α : Type} (state : State) (call : Call α) {verdict : Verdict α}
    [Settles call Fault.status verdict] (output : α → Option Value) :
    (state.respond call output).body = [] := by
  cases outcome : verdict state with
  | error fault => rw [respond_of_error outcome]
  | ok commit => rw [respond_of_ok outcome]

/-- Nothing but the call of a timer lets anything follow. -/
theorem Operation.body_of_not_isTimerCall (operation : Operation) (state : State)
    (other : operation.isTimerCall = false) : (operation.perform state).body = [] := by
  cases operation with
  | errorIsSet | errorText | resetError | setVariable | installLogger | refuse => rfl
  | otherThread => rfl
  | options slot request => cases request <;> exact respond_body _ _ _
  | initContext count vector given target =>
    simp only [Operation.perform]
    split
    · exact respond_body _ _ _
    · rfl
  | context slot request =>
    cases request with
    | isValid | instanceId => rfl
    | unparsed index =>
      simp only [Operation.perform, ContextCall.perform]
      split <;> rfl
    | shutdown | domainId | unparsedCount | fini => exact respond_body _ _ _
  | clock slot request =>
    cases request with
    | isValid | setType | fields => rfl
    | init | now | enableOverride | disableOverride | isOverrideEnabled | setOverride | fini =>
      exact respond_body _ _ _
  | initTimer => exact respond_body _ _ _
  | timer slot request =>
    cases request with
    | call => cases other
    | isReady | isCanceled | reset | cancel | untilNextCall | sinceLastCall | period
    | exchangePeriod | fini => exact respond_body _ _ _

theorem run_after_inner (depth : Nat) (operation : Operation) (state : State) :
    (run depth operation state).2 = (operation.perform state).state.after
      (Reply.traceEach (run depth operation state).1.inner) := by
  rw [run_state]
  cases depth with
  | zero => rfl
  | succ depth => rfl

theorem run_of_isPlainQuery {operation : Operation} (query : operation.isPlainQuery = true)
    (depth : Nat) (state : State) : (run depth operation state).2 = state := by
  cases operation with
  | context slot request =>
    cases request with
    | isValid | instanceId => cases depth <;> rfl
    | shutdown | domainId | unparsedCount | unparsed | fini => cases query
  | clock slot request =>
    cases request with
    | isValid => cases depth <;> rfl
    | init | now | enableOverride | disableOverride | isOverrideEnabled | setOverride | fini
    | setType | fields => cases query
  | errorIsSet | errorText | resetError | otherThread | setVariable | installLogger | options
  | initContext | initTimer | timer | refuse => cases query

/-- A call of the status level, in any state, either fails whatever is pending, or goes through
whatever is pending. If it fails, a diagnostic of its own is pending afterwards, and the log tells
of the one that it overwrote exactly if there was one. If it goes through, the pending diagnostic is
as it was and none is reported, up to the point where the callback of a timer that was called goes
on. A query without a status leaves the whole state. -/
theorem run_leaves_own_diagnostic (depth : Nat) (operation : Operation)
    (called : operation.isCall = true) (state : State) :
    ((∃ fault : Fault, ∀ pending : Option String,
        let (reply, after) := run depth operation { state with pending }
        reply.answer.isFailure = true ∧
        (∀ code, reply.answer.status? = some code → code = fault.status) ∧
        after.pending = some fault.diagnostic ∧
        after.log = state.log ++
          .diagnostic fault.diagnostic :: (pending.map LogRecord.overwritten).toList) ∨
      ∀ pending : Option String,
        let before := { state with pending }
        let (reply, after) := run depth operation before
        let committed := (operation.perform before).state
        reply.answer.isFailure = false ∧ before.Untroubled committed ∧
        after = committed.after (Reply.traceEach reply.inner) ∧
        (operation.isTimerCall = false → after = committed)) ∧
    (operation.isPlainQuery = true → (run depth operation state).2 = state) := by
  refine ⟨?_, fun query => run_of_isPlainQuery query depth state⟩
  rcases operation.diagnoses state called with ⟨fault, fails⟩ | ⟨passes⟩
  · refine Or.inl ⟨fault, fun pending => ?_⟩
    obtain ⟨failure, status, left, body⟩ := fails pending
    rw [run_of_no_body body]
    refine ⟨failure, status, ?_, ?_⟩
    · rw [left]
      rfl
    · rw [left]
      cases pending <;> rfl
  · refine Or.inr fun pending => ?_
    obtain ⟨success, untroubled⟩ := passes pending
    refine ⟨?_, untroubled, run_after_inner depth operation _, ?_⟩
    · rw [answer_run]
      exact success
    · intro other
      rw [run_of_no_body (operation.body_of_not_isTimerCall _ other)]

/-- A clock that was never initialised is released while the diagnostic of an earlier call is
pending. -/
theorem run_leaves_own_diagnostic_overwriting :
    let before : State :=
      { readings := fun _ => ⟨.ok .zero, .ok .zero⟩, pending := some "timer is canceled" }
    let (reply, after) := run 3 (.clock (some 1) .fini) before
    reply.answer = .status .invalidArgument none ∧
      after.pending = some "clock is not initialized" ∧
      ∃ fault : Fault,
        after.log = [.diagnostic fault.diagnostic, .overwritten "timer is canceled"] := by
  intro before
  have law := run_leaves_own_diagnostic 3 (.clock (some 1) .fini) rfl before
  refine ⟨rfl, rfl, ?_⟩
  rcases law.1 with ⟨fault, fails⟩ | passes
  · exact ⟨fault, (fails (some "timer is canceled")).2.2.2⟩
  · have success := (passes none).1
    cases success

end RosClient
