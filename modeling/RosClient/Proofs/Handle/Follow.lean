import RosClient.Handle.Timer
import RosClient.Proofs.Context.Release
import RosClient.Proofs.Handle.Override

namespace RosClient

/-- From a state, an action ends as its call does. -/
inductive Follows {α β : Type} (task : Task) (verdict : Verdict α) (value : α → β)
    (action : Action β) (state : State) : Prop where
  | ok {commit : Commit α} (accepted : verdict state = .ok commit)
    (ended : ∃ records,
      action state = .ok (value commit.value) ((state.committed commit).write records))
  | error {fault : Fault} (refused : verdict state = .error fault)
    (ended : action state =
      .error (.failed task.kind fault.status (failureMessage task fault))
        (state.afterFailure fault (.failure (failureMessage task fault))))

section

variable {α β : Type} {task : Task} {verdict : Verdict α} {value : α → β} {state : State}

theorem Follows.of_eq {action other : Action β} (follows : Follows task verdict value other state)
    (same : action state = other state) : Follows task verdict value action state := by
  cases follows with
  | ok accepted ended => exact .ok accepted (same ▸ ended)
  | error refused ended => exact .error refused (same.trans ended)

end

variable {handle : Handle} {state : State}

namespace ContextHandle

end ContextHandle

namespace ClockHandle

end ClockHandle

namespace TimerHandle

end TimerHandle

end RosClient
