import RosClient.Proofs.Operation.Effect

namespace RosClient

/-- What an effect has besides objects: nothing of the caller's is touched. -/
structure Effect.LeavesBe (effect : Effect) (state : State) : Prop where
  state : effect.state = { state with
    pending := effect.state.pending, log := effect.state.log, calls := effect.state.calls }
  bare : effect.answer.isBare = true
  body : effect.body = []

theorem Effect.LeavesBe.objects {effect : Effect} {state : State} (left : effect.LeavesBe state) :
    effect.state.objects = state.objects := by
  rw [left.state]

/-- An effect with a status other than `ok` is one that changes nothing. -/
def Effect.IsAtomic (effect : Effect) (state : State) : Prop :=
  ∀ status, effect.answer.status? = some status → status ≠ .ok → effect.LeavesBe state

theorem Effect.isAtomic_of_no_status {effect : Effect} {state : State}
    (none : effect.answer.status? = none) : effect.IsAtomic state := by
  intro status present
  rw [none] at present
  cases present

theorem respond_isAtomic {α : Type} (state : State) (call : Call α) {verdict : Verdict α}
    [Settles call Fault.status verdict] (output : α → Option Value) :
    (state.respond call output).IsAtomic state := by
  intro status answered failed
  cases outcome : verdict state with
  | error fault =>
    rw [State.respond_of_error outcome]
    exact ⟨rfl, rfl, rfl⟩
  | ok commit =>
    rw [State.respond_of_ok outcome] at answered
    exact absurd (Option.some.inj answered).symm failed

theorem callTimer_isAtomic (timer : Option Place) (state : State) :
    (TimerCall.call.perform timer state).IsAtomic state := by
  intro status answered failed
  cases outcome : Verdict.callTimer timer state with
  | error fault =>
    rw [State.callTimer_of_error outcome]
    exact ⟨rfl, rfl, rfl⟩
  | ok commit =>
    rw [State.callTimer_of_ok outcome] at answered
    exact absurd (Option.some.inj answered).symm failed

theorem onOtherThread_isAtomic (state : State) : state.onOtherThread.IsAtomic state := by
  intro status answered failed
  exact ⟨rfl, rfl, rfl⟩

theorem Operation.perform_isAtomic (operation : Operation) (state : State) :
    (operation.perform state).IsAtomic state := by
  cases operation with
  | errorIsSet | errorText | resetError | setVariable | refuse =>
    exact Effect.isAtomic_of_no_status rfl
  | otherThread => exact onOtherThread_isAtomic state
  | installLogger => exact fun _ _ _ => ⟨rfl, rfl, rfl⟩
  | options slot request => cases request <;> exact respond_isAtomic _ _ _
  | initContext count vector given target =>
    simp only [Operation.perform]
    split
    · exact respond_isAtomic _ _ _
    · exact Effect.isAtomic_of_no_status rfl
  | context slot request =>
    cases request with
    | isValid | instanceId => exact Effect.isAtomic_of_no_status rfl
    | unparsed index =>
      apply Effect.isAtomic_of_no_status
      simp only [Operation.perform, ContextCall.perform]
      split <;> rfl
    | shutdown | domainId | unparsedCount | fini => exact respond_isAtomic _ _ _
  | clock slot request =>
    cases request with
    | isValid | setType | fields => exact Effect.isAtomic_of_no_status rfl
    | init | now | enableOverride | disableOverride | isOverrideEnabled | setOverride | fini =>
      exact respond_isAtomic _ _ _
  | initTimer => exact respond_isAtomic _ _ _
  | timer slot request =>
    cases request with
    | call => exact callTimer_isAtomic _ _
    | isReady | isCanceled | reset | cancel | untilNextCall | sinceLastCall | period
    | exchangePeriod | fini => exact respond_isAtomic _ _ _

theorem run_of_no_body {operation : Operation} {state : State}
    (empty : (operation.perform state).body = []) (depth : Nat) :
    run depth operation state =
      (⟨operation, (operation.perform state).answer, [], (operation.perform state).state.pending⟩,
        (operation.perform state).state) := by
  cases depth with
  | zero => rfl
  | succ depth => simp only [run, empty, runEach]

theorem answer_run (depth : Nat) (operation : Operation) (state : State) :
    (run depth operation state).1.answer = (operation.perform state).answer := by
  cases depth <;> rfl

/-- An operation that answers a status other than `ok` leaves every object, the next instance id and
the environment as they are; it has no output and runs no callback. -/
theorem run_refused_unchanged (depth : Nat) (operation : Operation) (state : State)
    (status : Status) (answered : (run depth operation state).1.answer.status? = some status)
    (failed : status ≠ .ok) :
    (run depth operation state).2.objects = state.objects ∧
      (run depth operation state).2 = { state with
        pending := (run depth operation state).2.pending
        log := (run depth operation state).2.log
        calls := (run depth operation state).2.calls } ∧
      (run depth operation state).1.answer.isBare = true ∧
      (run depth operation state).1.inner = [] := by
  rw [answer_run] at answered
  have left := operation.perform_isAtomic state status answered failed
  rw [run_of_no_body left.body]
  exact ⟨left.objects, left.state, left.bare, rfl⟩

/-- A timer of slot 1, on the ROS clock of slot 2 with its override on, with a callback that would
cancel it. -/
def stateWithTimer : State :=
  State.after { readings := fun _ => ⟨.ok .zero, .ok .zero⟩ }
    [.options (some 4) .init, .initContext 0 none (some 4) (some 3),
      .clock (some 2) (.init .rosTime), .clock (some 2) .enableOverride,
      .initTimer (some 1) (some 2) (some 3) (.clamp 10) (some 7) fun _ => [.timer (some 1) .cancel]]

/-- The clock of the timer stands before the deadline, so the call is refused and the callback does
not run. -/
theorem run_refused_unchanged_early_call :
    (run 3 (.timer (some 1) .call) stateWithTimer).1.answer.status? = some .error ∧
      (run 3 (.timer (some 1) .call) stateWithTimer).2.objects = stateWithTimer.objects :=
  have answered :
      (run 3 (.timer (some 1) .call) stateWithTimer).1.answer.status? = some .error := by
    rfl
  ⟨answered, (run_refused_unchanged 3 _ stateWithTimer .error answered (by decide)).1⟩

end RosClient
