import RosClient.Arguments
import RosClient.Nanos
import RosClient.Status

namespace RosClient

/-- What a call wanted to do with the override of a clock that has none. -/
inductive OverrideAction where
  | enable
  | disable
  | query
  | set
  deriving DecidableEq

def OverrideAction.description : OverrideAction → String
  | enable => "enable override"
  | disable => "disable override"
  | query => "query override state"
  | set => "set time override"

inductive Fault where
  | nullArgument (name : String)
  | optionsInitialized
  | optionsUninitialized
  | negativeCount
  | missingVector
  | nullItem (index : Nat)
  | contextInitialized
  | badArguments (cause : ArgumentError)
  | badDomain (text : String)
  | contextUninitialized
  | contextShutDown
  | contextValid
  | contextInvalid
  | contextUnusable
  | argumentIndex (index count : Nat)
  | clockInitialized
  | clockUninitialized
  | clockUnreadable
  | readingFailed (reason : String)
  | notRosTime (action : OverrideAction)
  | overrideMissing
  | timerInitialized
  | timerUninitialized
  | negativePeriod (period : Nanos)
  | timerCanceled
  | negativeNow
  | timerNotReady (remaining : Nanos)
  deriving DecidableEq

namespace Fault

def message : Fault → String
  | nullArgument name => s!"{name} argument is null"
  | optionsInitialized =>
    "init options already initialized, did you forget to call rclb_init_options_fini?"
  | optionsUninitialized => "init options impl is invalid"
  | negativeCount => "argc must be non-negative"
  | missingVector => "argv is null but argc is positive"
  | nullItem index => s!"argv[{index}] is null"
  | contextInitialized => "context is already initialized"
  | badArguments cause => "failed to parse ROS arguments: " ++ cause.message
  | badDomain text => s!"ROS_DOMAIN_ID is not an integral number: '{text}'"
  | contextUninitialized => "context is zero-initialized"
  | contextShutDown => "rclb_shutdown already called on the given context"
  | contextValid => "rclb_shutdown() not called on the given context"
  | contextInvalid => "context is not valid"
  | contextUnusable => "context is not valid"
  | argumentIndex index count =>
    s!"argument index {index} out of range ({count} unparsed arguments)"
  | clockInitialized => "clock already initialized"
  | clockUninitialized => "clock is not initialized"
  | clockUnreadable => "clock is not initialized or does not have a time source"
  | readingFailed reason => s!"failed to read the time source: {reason}"
  | notRosTime action => "clock is not of type RCLB_ROS_TIME, cannot " ++ action.description
  | overrideMissing => "clock storage is not initialized, cannot access ROS time override"
  | timerInitialized => "timer already initialized, or memory was uninitialized"
  | timerUninitialized => "timer is not initialized"
  | negativePeriod period => s!"timer period must be non-negative, got {period.value}"
  | timerCanceled => "timer is canceled"
  | negativeNow => "clock now returned negative time point value"
  | timerNotReady remaining =>
    s!"timer is not ready to be called, next call in {remaining.value} ns"

/-- The diagnostic as it is kept: a NUL in the message becomes a blank. -/
def diagnostic (fault : Fault) : String :=
  String.ofList (fault.message.toList.map fun c => if c.toNat = 0 then ' ' else c)

end Fault

end RosClient
