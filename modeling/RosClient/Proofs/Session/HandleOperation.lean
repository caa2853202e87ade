import RosClient.Proofs.Handle.Follow
import RosClient.Proofs.Session.Release
import RosClient.Proofs.Timer.Instant

namespace RosClient

/-- The outcome in the answer of a step. -/
def StepAnswer.outcome? : StepAnswer → Option Outcome
  | outcome ended | kept ended _ | fired ended _ => some ended
  | _ => none

/-- The output in the answer of an operation. -/
def Answer.output? : Answer → Option Value
  | status _ output => output
  | _ => none

/-- The operations on a handle that has been made, be it empty or not. -/
inductive HandleOperation where
  | initContext (arguments : List String) (domain : Option DomainId)
  | shutdownContext
  | contextDomain
  | unparsedArguments
  | readClock
  | queryOverride
  | switchOverride (enabled : Bool)
  | setOverride (value : Nanos)
  | timer (request : TimerRequest)
  | dispose (kind : HandleKind)

/-- The effect of asking for the unparsed arguments with some indices. A missing text is a failure.
-/
def argumentCalls (context : Option Place) : List Nat → State → Effect
  | [], state => ⟨.status .ok (some (.texts [])), state, []⟩
  | index :: rest, state =>
    let first := (ContextCall.unparsed index).perform context state
    let others := argumentCalls context rest first.state
    match first.answer, others.answer with
    | .value (.text text), .status .ok (some (.texts texts)) =>
      ⟨.status .ok (some (.texts (text :: texts))), others.state, []⟩
    | .value (.text _), _ => others
    | _, _ => ⟨.status .error none, first.state, []⟩

/-- The effect of asking for the number of unparsed arguments and then for each of them. -/
def unparsedCalls (context : Option Place) (state : State) : Effect :=
  let counted := (ContextCall.unparsedCount true).perform context state
  match counted.answer with
  | .status .ok (some (.count count)) => argumentCalls context (List.range count) counted.state
  | _ => counted

namespace HandleOperation

def kind : HandleOperation → HandleKind
  | initContext .. | shutdownContext | contextDomain | unparsedArguments => .context
  | readClock | queryOverride | switchOverride _ | setOverride _ => .clock
  | timer _ => .timer
  | dispose kind => kind

/-- The kind of the error in which an operation fails. -/
def failureKind (operation : HandleOperation) : FailureKind :=
  match operation, operation.kind with
  | initContext .., _ => .init
  | _, .context | _, .clock => .runtime
  | _, .timer => .state

/-- Carries out an operation on the handle in a slot. -/
def perform (session : Session) (slot : Slot) : HandleOperation → StepAnswer × Session
  | initContext arguments domain =>
    (ContextStep.use (.init arguments domain)).perform slot session
  | shutdownContext => (ContextStep.use .shutdown).perform slot session
  | contextDomain => (ContextStep.use .domainId).perform slot session
  | unparsedArguments => (ContextStep.use .unparsed).perform slot session
  | readClock => (ClockStep.use .rawNow).perform slot session
  | queryOverride => (ClockStep.use .isOverrideEnabled).perform slot session
  | switchOverride enabled => (ClockStep.use (.switchOverride enabled)).perform slot session
  | setOverride value => (ClockStep.use (.rawSet value)).perform slot session
  | timer request => (TimerStep.use request).perform slot session
  | dispose kind => session.disposeOf slot kind

/-- The value of an operation whose calls gave an answer; setting a period drops the old one. -/
def result (answer : Answer) : HandleOperation → Value
  | timer (.setPeriod _) => .nothing
  | _ => answer.output?.getD .nothing

/-- An answer and the state behind it tell what the calls did. If they went through, it is their
value, and the state is theirs, with nothing left to run and perhaps more in the log. If one did
not, it is an error with its status and the diagnostic that it left, which is pending no longer; and
all objects are as they were before. -/
def Tells (operation : HandleOperation) (before : State) (effect : Effect) (answer : StepAnswer)
    (after : State) : Prop :=
  match effect.answer.status? with
  | some .ok =>
    answer.outcome? = some (.value (operation.result effect.answer)) ∧
      (∃ records, after = effect.state.write records) ∧ effect.body = []
  | some status =>
    (∃ (task : Task) (diagnostic : String), effect.state.pending = some diagnostic ∧
      answer.outcome? = some (.error
        (.failed operation.failureKind status (task.description ++ ": " ++ diagnostic)))) ∧
      ∃ records calls,
        after = { before with pending := none, log := before.log ++ records, calls }
  | none => False

section

variable {operation : HandleOperation} {session : Session} {slot : Slot}

end

end HandleOperation

open Session

section

variable {α β : Type} {operation : HandleOperation} {session looked : Session} {slot : Slot}

end

end RosClient
