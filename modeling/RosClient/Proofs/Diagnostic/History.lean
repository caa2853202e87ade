import RosClient.Proofs.Diagnostic.Step

namespace RosClient

namespace State

/-- No diagnostic is pending, and none was ever overwritten. -/
structure IsSettled (state : State) : Prop where
  pending : state.pending = none
  log : ∀ text, .overwritten text ∉ state.log

theorem IsSettled.untroubled {before after : State} (settled : before.IsSettled)
    (untroubled : before.Untroubled after) : after.IsSettled := by
  obtain ⟨records, reported, plain⟩ := untroubled.log
  refine ⟨untroubled.pending.trans settled.pending, fun text => ?_⟩
  rw [reported]
  exact List.not_mem_append (settled.log text) (not_overwritten_of_plain plain text)

theorem IsSettled.ends {before after : State} (settled : before.IsSettled) {tasks : List Task}
    {error? : Option Error} (ended : Ends tasks before error? after) : after.IsSettled := by
  unfold Ends at ended
  split at ended
  · obtain ⟨_, _, _, _, _, fault, middle, _, calm, _, _, _, later, reported, quiet⟩ := ended.cause
    have settledThen := settled.untroubled calm
    have nothing : middle.overwritten = [] := by rw [overwritten, settledThen.pending]
    refine ⟨ended.cleared, fun text => ?_⟩
    rw [reported, raise_eq, nothing]
    refine List.not_mem_append (List.not_mem_append (settledThen.log text) ?_) ?_
    · simp only [List.mem_singleton, reduceCtorEq, not_false_eq_true]
    · simp only [List.mem_cons, reduceCtorEq, false_or]
      exact quiet text
  · exact settled.untroubled ended

end State

namespace Session

/-- The session with another diagnostic pending, or with none. -/
def withPending (session : Session) (pending : Option String) : Session :=
  { session with state := { session.state with pending } }

theorem alike_withPending (session : Session) (pending : Option String) :
    session.Alike (session.withPending pending) :=
  ⟨⟨rfl, rfl, rfl, rfl⟩, rfl, rfl, rfl, rfl⟩

theorem HasLiveClocks.withPending {session : Session} (live : session.HasLiveClocks)
    (pending : Option String) : (session.withPending pending).HasLiveClocks :=
  live.of_same rfl fun _ => rfl

theorem HasLiveClocks.after_isSettled {session : Session} (live : session.HasLiveClocks)
    (settled : session.state.IsSettled) {history : List Step}
    (onHandles : ∀ step ∈ history, step.isOnHandles = true) :
    (session.after history).state.IsSettled := by
  induction history generalizing session with
  | nil => exact settled
  | cons step rest ih =>
    have clean := step.perform_clean live (onHandles step List.mem_cons_self)
    exact ih (step.perform_live live) (settled.ends clean.ends)
      fun later member => onHandles later (List.mem_cons_of_mem _ member)

end Session

/-- A step on handles answers for its own calls only, in every session that steps led to and with
every diagnostic pending. Either its error tells the diagnostic that a call of the step itself has
left, and none is pending any longer, or the pending one is as it was. What it answers does not
depend on the pending one. In a session of such steps alone none is pending after any step, and none
is ever overwritten. -/
theorem step_answers_own_diagnostic (depth : Nat) (environment : Environment)
    (readings : Nat → RealTime) (history : List Step) (pending : Option String) (step : Step)
    (onHandles : step.isOnHandles = true) :
    let session := (Session.start depth environment readings).after history
    let before := session.withPending pending
    let (answer, after) := step.perform before
    (match answer.error? with
      | some (.failed kind status message) =>
        State.Surfaced step.tasks before.state kind status message after.state
      | _ => before.state.Untroubled after.state) ∧
      answer = (step.perform session).1 ∧
      ((∀ earlier ∈ history, earlier.isOnHandles = true) →
        session.state.IsSettled ∧ (step.perform session).2.state.IsSettled) := by
  intro session before
  have live : session.HasLiveClocks := after_start_hasLiveClocks depth environment readings history
  have clean := step.perform_clean live onHandles
  have cleanPending := step.perform_clean (live.withPending pending) onHandles
  refine ⟨cleanPending.ends, ?_, ?_⟩
  · exact (clean.blind before (session.alike_withPending pending)).1.symm
  · intro allOnHandles
    have fresh : (Session.start depth environment readings).state.IsSettled :=
      ⟨rfl, fun _ => List.not_mem_nil⟩
    have settled := (Session.start_hasLiveClocks depth environment readings).after_isSettled fresh
      allOnHandles
    exact ⟨settled, settled.ends clean.ends⟩

/-- A clock that is disposed of and read, with a diagnostic of somebody else pending. -/
theorem step_answers_own_diagnostic_disposed_clock :
    let session := (Session.start 3 .empty fun _ => ⟨.ok .zero, .ok .zero⟩).after
      [.clock 1 (.create "ROS_TIME"), .clock 1 .dispose]
    let before := session.withPending (some "left by somebody else")
    let (answer, after) := (Step.clock 1 (.use .rawNow)).perform before
    let message := failureMessage .clockNow (.nullArgument "clock")
    answer = .outcome (.error (.failed .runtime .invalidArgument message)) ∧
      State.Surfaced [.clockNow] before.state .runtime .invalidArgument message after.state ∧
      session.state.IsSettled := by
  intro session before
  have own := step_answers_own_diagnostic 3 .empty (fun _ => ⟨.ok .zero, .ok .zero⟩)
    [.clock 1 (.create "ROS_TIME"), .clock 1 .dispose] (some "left by somebody else")
    (.clock 1 (.use .rawNow)) rfl
  exact ⟨rfl, own.1, (own.2.2 (by decide)).1⟩

end RosClient
