import RosClient.Handle.Basic
import RosClient.Proofs.Operation.Effect

namespace RosClient

/-- The error in which an action ended. -/
def errorOf? {α : Type} : EStateM.Result Error State α → Option Error
  | .ok _ _ => none
  | .error e _ => some e

/-- The state in which an action ended. -/
def stateOf {α : Type} : EStateM.Result Error State α → State
  | .ok _ after => after
  | .error _ after => after

namespace State

/-- What is reported of the diagnostic that a failure overwrites. -/
def overwritten (state : State) : List LogRecord :=
  match state.pending with
  | some previous => [.overwritten previous]
  | none => []

/-- The state after a refused call whose diagnostic is taken at once and told in a report. -/
def afterFailure (state : State) (fault : Fault) (report : LogRecord) : State :=
  { state with
    pending := none
    log := state.log ++ (.diagnostic fault.diagnostic :: (state.overwritten ++ [report]))
    calls := state.calls + 1 }

theorem raise_eq (state : State) (fault : Fault) :
    state.raise fault =
      { state with
        pending := some fault.diagnostic
        log := state.log ++ .diagnostic fault.diagnostic :: state.overwritten } :=
  rfl

end State

section

variable {α β : Type}

theorem bind_of_ok {action : Action α} {next : α → Action β} {state middle : State} {value : α}
    (ended : action state = .ok value middle) : (action >>= next) state = next value middle := by
  change EStateM.bind action next state = _
  simp only [EStateM.bind, ended]

theorem bind_of_error {action : Action α} {next : α → Action β} {state middle : State} {e : Error}
    (ended : action state = .error e middle) : (action >>= next) state = .error e middle := by
  change EStateM.bind action next state = _
  simp only [EStateM.bind, ended]

theorem choice_apply (test : State → Bool) (first second : Action α) (state : State) :
    (get >>= fun state => if test state then first else second : Action α) state =
      (if test state then first else second : Action α) state :=
  rfl

theorem choice_of_true {test : State → Bool} {state : State} (holds : test state = true)
    (first second : Action α) :
    (get >>= fun state => if test state then first else second : Action α) state = first state := by
  rw [choice_apply, if_pos holds]

theorem choice_of_false {test : State → Bool} {state : State} (fails : test state = false)
    (first second : Action α) :
    (get >>= fun state => if test state then first else second : Action α) state =
      second state := by
  rw [choice_apply, fails, if_neg Bool.false_ne_true]

/-- What is reported when a failure is turned into an error. -/
def failureMessage (task : Task) (fault : Fault) : String :=
  task.description ++ ": " ++ fault.diagnostic

variable {call : Call α} {status : Fault → Status} {verdict : Verdict α} {state : State}

theorem attempt_of_ok [Settles call status verdict] {task : Task} {commit : Commit α}
    (accepted : verdict state = .ok commit) :
    attempt task call state = .ok commit.value (state.committed commit) := by
  simp only [attempt, State.perform_of_ok accepted, State.committed]

theorem attempt_of_error [Settles call status verdict] {task : Task} {fault : Fault}
    (refused : verdict state = .error fault) :
    attempt task call state =
      .error (.failed task.kind (status fault) (failureMessage task fault))
        (state.afterFailure fault (.failure (failureMessage task fault))) := by
  simp only [attempt, State.perform_of_error refused, State.raise_eq]
  simp only [State.fail, State.takeDiagnostic, State.write, State.afterFailure, failureMessage,
    List.append_assoc, List.cons_append]

theorem discard_of_ok {call : Call Unit} {verdict : Verdict Unit} [Settles call status verdict]
    {cleanUp : String} {commit : Commit Unit} (accepted : verdict state = .ok commit) :
    discard cleanUp call state = .ok () (state.committed commit) := by
  simp only [discard, State.perform_of_ok accepted, State.committed]

theorem discard_of_error {call : Call Unit} {verdict : Verdict Unit} [Settles call status verdict]
    {cleanUp : String} {fault : Fault} (refused : verdict state = .error fault) :
    discard cleanUp call state =
      .ok () (state.afterFailure fault (.ignored cleanUp (status fault) fault.diagnostic)) := by
  simp only [discard, State.perform_of_error refused, State.raise_eq]
  simp only [State.takeDiagnostic, State.write, State.afterFailure, List.append_assoc,
    List.cons_append]

theorem orCleanUp_of_ok {action : Action α} {cleanUp : Action Unit} {state after : State}
    {value : α} (ended : action state = .ok value after) :
    orCleanUp action cleanUp state = .ok value after := by
  simp only [orCleanUp, ended]

theorem orCleanUp_of_error {action : Action α} {cleanUp : Action Unit} {state middle : State}
    {e : Error} (ended : action state = .error e middle) :
    orCleanUp action cleanUp state = .error e (stateOf (cleanUp middle)) := by
  simp only [orCleanUp, ended]
  cases cleanUp middle <;> rfl

/-- An action that fails exactly if a call is refused, and leaves the objects that the call
leaves. -/
structure EndsAs (action : Action β) (verdict : Verdict α) : Prop where
  ok : ∀ state commit, verdict state = .ok commit →
    ∃ value after, action state = .ok value after ∧ after.objects = commit.objects
  error : ∀ state fault, verdict state = .error fault →
    ∃ e after, action state = .error e after ∧ after.objects = state.objects

theorem endsAs_attempt (task : Task) (call : Call α) {verdict : Verdict α}
    [Settles call status verdict] : EndsAs (attempt task call) verdict where
  ok _ _ accepted := ⟨_, _, attempt_of_ok accepted, rfl⟩
  error _ _ refused := ⟨_, _, attempt_of_error refused, rfl⟩

/-- What follows on success and neither fails nor changes an object makes no difference. -/
theorem EndsAs.bind {γ : Type} {action : Action β} {verdict : Verdict α} {next : β → Action γ}
    (ends : EndsAs action verdict)
    (quiet : ∀ value state, ∃ result after, next value state = .ok result after ∧
      after.objects = state.objects) : EndsAs (action >>= next) verdict where
  ok state commit accepted := by
    obtain ⟨value, middle, ended, stored⟩ := ends.ok state commit accepted
    obtain ⟨result, after, quietly, same⟩ := quiet value middle
    exact ⟨result, after, (bind_of_ok ended).trans quietly, same.trans stored⟩
  error state fault refused := by
    obtain ⟨e, after, ended, same⟩ := ends.error state fault refused
    exact ⟨e, after, bind_of_error ended, same⟩

theorem release_of_ok {state after : State} {object : String} {action : Action α} {value : α}
    (ended : action state = .ok value after) : state.release object action = after := by
  simp only [State.release, ended]

end

end RosClient
