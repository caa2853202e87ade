import RosClient.Proofs.Verdict.Timer
import RosClient.Run

namespace RosClient

namespace Answer

/-- The status in an answer, if the operation has one. -/
def status? : Answer → Option Status
  | status code _ => some code
  | called code _ => some code
  | thread _ code _ => some code
  | _ => none

/-- Whether the operation has a status and went through. -/
def isOk (answer : Answer) : Bool :=
  answer.status? = some .ok

/-- Whether an answer has neither an output nor a firing of a callback. -/
def isBare : Answer → Bool
  | status _ output => output.isNone
  | called _ fired => fired.isNone
  | thread .. => true
  | _ => false

end Answer

namespace State

/-- The state after a call that went through. -/
def committed {α : Type} (state : State) (commit : Commit α) : State :=
  { state.write commit.log with objects := commit.objects, calls := state.calls + 1 }

/-- The state after a call that was refused. -/
def refused (state : State) (fault : Fault) : State :=
  { state.raise fault with calls := state.calls + 1 }

@[simp] theorem objects_committed {α : Type} (state : State) (commit : Commit α) :
    (state.committed commit).objects = commit.objects :=
  rfl

@[simp] theorem objects_refused (state : State) (fault : Fault) :
    (state.refused fault).objects = state.objects :=
  rfl

@[simp] theorem pending_refused (state : State) (fault : Fault) :
    (state.refused fault).pending = some fault.diagnostic :=
  rfl

variable {α : Type} {state : State} {call : Call α} {verdict : Verdict α}
  {output : α → Option Value} [Settles call Fault.status verdict]

theorem respond_of_ok {commit : Commit α} (accepted : verdict state = .ok commit) :
    state.respond call output =
      ⟨.status .ok (output commit.value), state.committed commit, []⟩ := by
  simp only [respond, perform_of_ok accepted, committed]

theorem respond_of_error {fault : Fault} (rejected : verdict state = .error fault) :
    state.respond call output = ⟨.status fault.status none, state.refused fault, []⟩ := by
  simp only [respond, perform_of_error rejected, refused]

theorem respondStatus_of_ok {call : Call Unit} {verdict : Verdict Unit}
    [Settles call Fault.status verdict] {commit : Commit Unit}
    (accepted : verdict state = .ok commit) :
    state.respondStatus call = ⟨.status .ok none, state.committed commit, []⟩ :=
  respond_of_ok accepted

theorem callTimer_of_ok {timer : Option Place} {commit : Commit Firing}
    (accepted : Verdict.callTimer timer state = .ok commit) :
    TimerCall.call.perform timer state =
      ⟨.called .ok commit.value.record, state.committed commit, commit.value.body⟩ := by
  simp only [TimerCall.perform, perform_of_ok accepted, committed]

theorem callTimer_of_error {timer : Option Place} {fault : Fault}
    (rejected : Verdict.callTimer timer state = .error fault) :
    TimerCall.call.perform timer state = ⟨.called fault.status none, state.refused fault, []⟩ := by
  simp only [TimerCall.perform, perform_of_error rejected, refused]

theorem isOk_callTimer_iff {timer : Option Place} :
    (TimerCall.call.perform timer state).answer.isOk = true ↔
      ∃ commit, Verdict.callTimer timer state = .ok commit := by
  cases outcome : Verdict.callTimer timer state with
  | error fault =>
    have different := fault.status_ne_ok
    simp [callTimer_of_error outcome, Answer.isOk, Answer.status?, different]
  | ok commit => simp [callTimer_of_ok outcome, Answer.isOk, Answer.status?]

theorem isOk_respond_iff :
    (state.respond call output).answer.isOk = true ↔ ∃ commit, verdict state = .ok commit := by
  cases outcome : verdict state with
  | error fault =>
    have different := fault.status_ne_ok
    simp [respond_of_error outcome, Answer.isOk, Answer.status?, different]
  | ok commit => simp [respond_of_ok outcome, Answer.isOk, Answer.status?]

theorem objects_respond_of_not_isOk {verdict : Verdict α} [Settles call Fault.status verdict]
    (failed : (state.respond call output).answer.isOk = false) :
    (state.respond call output).state.objects = state.objects := by
  cases outcome : verdict state with
  | error fault => rw [respond_of_error outcome, objects_refused]
  | ok commit =>
    rw [isOk_respond_iff.mpr ⟨commit, outcome⟩] at failed
    cases failed

theorem objects_respond (state : State) (call : Call α) {verdict : Verdict α}
    [Settles call Fault.status verdict] (output : α → Option Value) :
    (state.respond call output).state.objects = state.objects ∨
      ∃ commit, verdict state = .ok commit ∧
        (state.respond call output).state.objects = commit.objects := by
  cases outcome : verdict state with
  | error fault =>
    rw [respond_of_error outcome]
    exact Or.inl rfl
  | ok commit =>
    rw [respond_of_ok outcome]
    exact Or.inr ⟨commit, rfl, rfl⟩

end State

end RosClient
