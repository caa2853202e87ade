import RosClient.Configuration
import RosClient.Status
import RosClient.Text.Quoted

namespace RosClient

inductive Level where
  | error
  | warn
  | info
  | debug
  | trace
  deriving DecidableEq

namespace Level

def name : Level → String
  | error => "ERROR"
  | warn => "WARN"
  | info => "INFO"
  | debug => "DEBUG"
  | trace => "TRACE"

end Level

inductive LogRecord where
  /-- A refusing call left a diagnostic. -/
  | diagnostic (text : String)
  /-- The diagnostic that was still pending when the next one came. -/
  | overwritten (text : String)
  | argumentsRead (remaps params paramsFiles : Nat) (logLevel enclave : Option String)
  | argumentsReleased (remaps params : Nat)
  | contextInitialized (id : Nat) (domain : DomainId) (count : Int)
  | contextShutDown (id : Nat)
  | loggerInstalled (filter : String)
  /-- A failure was turned into an error value. -/
  | failure (message : String)
  /-- A clean-up failed while another failure was on its way. -/
  | ignored (cleanUp : String) (status : Status) (text : String)
  | contextReady (id count : Nat)
  | releaseFailed (object reason : String)
  | callbackFailed
  | rosTimeSwitched (active : Bool) (clocks : Nat)
  | loggerKept
  | configured (configuration : Configuration)
  deriving DecidableEq

namespace LogRecord

def level : LogRecord → Level
  | diagnostic _ => .debug
  | overwritten _ => .debug
  | argumentsRead .. => .trace
  | argumentsReleased .. => .trace
  | contextInitialized .. => .debug
  | contextShutDown _ => .debug
  | loggerInstalled _ => .debug
  | failure _ => .debug
  | ignored .. => .debug
  | contextReady .. => .debug
  | releaseFailed .. => .warn
  | callbackFailed => .error
  | rosTimeSwitched .. => .debug
  | loggerKept => .debug
  | configured _ => .info

/-- An optional domain: `None`, or `Some` and the number in brackets. -/
def optionalDomain : Option DomainId → String
  | none => "None"
  | some domain => s!"Some({domain.toNat})"

def message : LogRecord → String
  | diagnostic text => s!"[rclbridge-c] {text}"
  | overwritten text => s!"[rclbridge-c] overwriting unread error: {text}"
  | argumentsRead remaps params paramsFiles logLevel enclave =>
    s!"[rclbridge-c] ros args: {remaps} remaps, {params} params, {paramsFiles} params files, " ++
      "log level " ++ Text.quoteOption logLevel ++ ", enclave " ++ Text.quoteOption enclave
  | argumentsReleased remaps params =>
    s!"[rclbridge-c] releasing {remaps} remaps and {params} params"
  | contextInitialized id domain count =>
    s!"[rclbridge-c] context {id} initialized (domain {domain.toNat}, {count} args)"
  | contextShutDown id => s!"[rclbridge-c] context {id} shut down"
  | loggerInstalled filter => s!"[rclbridge-c] logger installed with filter '{filter}'"
  | failure message => s!"[rclbridge] {message}"
  | ignored cleanUp status text =>
    s!"[rclbridge] ignoring {cleanUp} failure ({status.name}): {text}"
  | contextReady id count => s!"[rclbridge] context {id} initialized with {count} args"
  | releaseFailed object reason => s!"[rclbridge] {object} on drop failed: {reason}"
  | callbackFailed => "[rclbridge] timer callback panicked"
  | rosTimeSwitched active clocks =>
    if active then s!"[rclbridge] ROS time enabled on {clocks} clocks"
    else s!"[rclbridge] ROS time disabled on {clocks} clocks"
  | loggerKept => "[rclbridge] logger already installed, keeping it"
  | configured configuration =>
    "[rclbridge] Environment config: domain_id=" ++ optionalDomain configuration.domainId ++
      ", log_level=" ++ configuration.logLevel ++
      (if configuration.useSimTime then ", use_sim_time=true" else ", use_sim_time=false")

end LogRecord

end RosClient
