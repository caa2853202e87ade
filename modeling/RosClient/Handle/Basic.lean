import RosClient.Error
import RosClient.State

namespace RosClient

/-- The way to an object, or empty. -/
abbrev Handle := Option Place

namespace Handle

/-- The text of the empty handle. -/
def emptyText : String := "Handle(0x0)"

/-- What is said of a request of a timer whose handle is empty. -/
def misuse : String := "timer handle used after dispose"

end Handle

/-- What a call is made for. -/
inductive Task where
  | initOptions
  | setDomain
  | initContext
  | finiOptions
  | shutdownContext
  | finiContext
  | contextDomain
  | countUnparsed
  | unparsedArgument
  | initClock
  | clockNow
  | queryOverride
  | switchOverride
  | setOverride
  | finiClock
  | initTimer
  | timerIsReady
  | timerIsCanceled
  | resetTimer
  | cancelTimer
  | untilNextCall
  | sinceLastCall
  | timerPeriod
  | exchangePeriod
  | callTimer
  | finiTimer
  deriving DecidableEq

namespace Task

def kind : Task → FailureKind
  | initOptions | setDomain | initContext | finiOptions | initClock | initTimer => .init
  | shutdownContext | finiContext | contextDomain | countUnparsed | unparsedArgument => .runtime
  | clockNow | queryOverride | switchOverride | setOverride | finiClock => .runtime
  | timerIsReady | timerIsCanceled | resetTimer | cancelTimer | untilNextCall => .state
  | sinceLastCall | timerPeriod | exchangePeriod | callTimer | finiTimer => .state

/-- What failed, in words. -/
def description : Task → String
  | initOptions => "Failed to init context options"
  | setDomain => "Failed to set domain id"
  | initContext => "Failed to init context"
  | finiOptions => "Failed to fini context options"
  | shutdownContext => "Failed to shutdown context"
  | finiContext => "Failed to fini context"
  | contextDomain => "Failed to get domain id"
  | countUnparsed => "Failed to count unparsed arguments"
  | unparsedArgument => "Failed to get unparsed argument"
  | initClock => "Failed to init clock"
  | clockNow => "Failed to get current time"
  | queryOverride => "Failed to get ros_time_override_enabled"
  | switchOverride => "Failed to set ros_time_override_enabled"
  | setOverride => "Failed to set time override"
  | finiClock => "Failed to fini clock"
  | initTimer => "Failed to init timer"
  | timerIsReady => "Failed to check timer ready"
  | timerIsCanceled => "Failed to check timer canceled"
  | resetTimer => "Failed to reset timer"
  | cancelTimer => "Failed to cancel timer"
  | untilNextCall => "Failed to get time until next timer call"
  | sinceLastCall => "Failed to get time since last timer call"
  | timerPeriod => "Failed to get timer period"
  | exchangePeriod => "Failed to exchange timer period"
  | callTimer => "Failed to call timer"
  | finiTimer => "Failed to fini timer"

end Task

/-- What is done through handles ends with a value or an error, and with a state. -/
abbrev Action := EStateM Error State

/-- Rejects before any call is made. -/
def reject {α : Type} (rejection : Rejection) : Action α :=
  throw (.ofRejection rejection)

/-- Turns the pending diagnostic into the error of a call that was refused. -/
def State.fail {α : Type} (task : Task) (status : Status) (state : State) :
    EStateM.Result Error State α :=
  let (diagnostic, after) := state.takeDiagnostic
  let message := task.description ++ ": " ++ diagnostic
  .error (.failed task.kind status message) (after.write [.failure message])

/-- Carries out a call for a task. -/
def attempt {α : Type} (task : Task) (call : Call α) : Action α := fun state =>
  match state.perform call with
  | (.ok value, after) => .ok value after
  | (.error status, after) => after.fail task status

/-- Carries out a call that cleans up; its failure is only reported. -/
def discard (cleanUp : String) (call : Call Unit) : Action Unit := fun state =>
  match state.perform call with
  | (.ok _, after) => .ok () after
  | (.error status, after) =>
    let (diagnostic, cleared) := after.takeDiagnostic
    .ok () (cleared.write [.ignored cleanUp status diagnostic])

/-- An action and, if it fails, another one that cleans up; the error stays that of the first. -/
def orCleanUp {α : Type} (action : Action α) (cleanUp : Action Unit) : Action α := fun state =>
  match action state with
  | .ok value after => .ok value after
  | .error e after =>
    match cleanUp after with
    | .ok _ last => .error e last
    | .error _ last => .error e last

/-- The state after an action at a release, where a failure is only reported. -/
def State.release {α : Type} (state : State) (object : String) (action : Action α) : State :=
  match action state with
  | .ok _ after => after
  | .error e after => after.write [.releaseFailed object e.description]

end RosClient
