import RosClient.Proofs.Run.Moment
import RosClient.Proofs.Session.Live

namespace RosClient

/-- Carries out a step without what a callback does then. -/
def Step.performAlone (session : Session) : Step → Session
  | operation asked => { session with state := (asked.perform session.state).state }
  | step => (step.perform session).2

/-- A deed and the session that it finds. -/
structure Instant where
  session : Session
  deed : Step

/-- The session that the deed leaves. -/
def Instant.after (instant : Instant) : Session :=
  instant.deed.performAlone instant.session

namespace Session

/-- The deeds of one step. -/
def deedsOf (session : Session) : Step → List Step
  | .operation asked => (run session.depth asked session.state).1.trace.map .operation
  | step => [step]

/-- The deeds of steps, one after the other. -/
def deeds (session : Session) : List Step → List Step
  | [] => []
  | step :: rest => session.deedsOf step ++ (step.perform session).2.deeds rest

/-- The session after deeds, one after the other. -/
def afterDeeds (session : Session) (deeds : List Step) : Session :=
  deeds.foldl Step.performAlone session

/-- The instants of deeds, one after the other. -/
def instants (session : Session) : List Step → List Instant
  | [] => []
  | deed :: rest => ⟨session, deed⟩ :: (deed.performAlone session).instants rest

theorem afterDeeds_append (session : Session) (first second : List Step) :
    session.afterDeeds (first ++ second) = (session.afterDeeds first).afterDeeds second :=
  List.foldl_append

theorem instants_append (session : Session) (first second : List Step) :
    session.instants (first ++ second) =
      session.instants first ++ (session.afterDeeds first).instants second := by
  induction first generalizing session with
  | nil => rfl
  | cons deed rest ih => exact congrArg (_ :: ·) (ih _)

theorem afterDeeds_operations (session : Session) (operations : List Operation) :
    session.afterDeeds (operations.map .operation) =
      { session with state := session.state.after operations } := by
  induction operations generalizing session with
  | nil => rfl
  | cons operation rest ih => exact ih _

/-- The deeds of a step lead to where the step leads. -/
theorem afterDeeds_deedsOf (session : Session) (step : Step) :
    session.afterDeeds (session.deedsOf step) = (step.perform session).2 := by
  cases step with
  | operation asked =>
    simp only [deedsOf, afterDeeds_operations, ← run_state]
    rfl
  | context | clock | timer | source | startLogging => rfl

theorem afterDeeds_deeds (session : Session) (steps : List Step) :
    session.afterDeeds (session.deeds steps) = session.after steps := by
  induction steps generalizing session with
  | nil => rfl
  | cons step rest ih =>
    simp only [deeds, afterDeeds_append, afterDeeds_deedsOf]
    exact ih _

/-- What every deed keeps holds at every instant and in the end. -/
theorem afterDeeds_induction {kept : Session → Prop} {session : Session} (start : kept session)
    (step : ∀ before (deed : Step), kept before → kept (deed.performAlone before))
    (deeds : List Step) : kept (session.afterDeeds deeds) := by
  induction deeds generalizing session with
  | nil => exact start
  | cons deed rest ih => exact ih (step session deed start)

theorem instants_induction {kept : List Instant → Session → Prop} {session : Session}
    (start : kept [] session)
    (step : ∀ history before (deed : Step), kept history before →
      kept (history ++ [⟨before, deed⟩]) (deed.performAlone before))
    (deeds : List Step) : kept (session.instants deeds) (session.afterDeeds deeds) := by
  suffices onward : ∀ history, kept history session →
      kept (history ++ session.instants deeds) (session.afterDeeds deeds) from onward [] start
  clear start
  induction deeds generalizing session with
  | nil =>
    intro history start
    rw [instants, List.append_nil]
    exact start
  | cons deed rest ih =>
    intro history start
    rw [instants, List.append_cons]
    exact ih _ (step history session deed start)

end Session

end RosClient
