import RosClient.ClockType
import RosClient.Status

namespace RosClient

/-- The greatest number of arguments that a call can be given. -/
def maxArgumentCount : Nat := 2147483647

/-- Why something is rejected before any call is made. -/
inductive Rejection where
  | tooManyArguments (count : Nat)
  | nulByte (index position : Nat)
  | emptyContext
  | negativePart
  | overflow (seconds nanoseconds : Int)
  | negativeTime (nanoseconds : Int)
  | cannotAttach (type : ClockType)
  deriving DecidableEq

def Rejection.message : Rejection → String
  | tooManyArguments count =>
    s!"too many arguments: {count} exceeds the native maximum of {maxArgumentCount}"
  | nulByte index position =>
    s!"argument {index} contains a NUL byte: nul byte found in provided data at position: " ++
      toString position
  | emptyContext => "context handle is empty"
  | negativePart => "seconds and nanoseconds must not be negative"
  | overflow seconds nanoseconds =>
    s!"{seconds}s + {nanoseconds}ns overflows i64 nanoseconds"
  | negativeTime nanoseconds => s!"nanoseconds must not be negative, got {nanoseconds}"
  | cannotAttach type =>
    "cannot attach a " ++ type.name ++ " clock to a time source, ROS_TIME required"

/-- Which part of the work a failed call belonged to: setting an object up, using a context or a
clock, or using a timer. -/
inductive FailureKind where
  | init
  | runtime
  | state
  deriving DecidableEq

def FailureKind.name : FailureKind → String
  | init => "Init"
  | runtime => "Runtime"
  | state => "State"

inductive Error where
  | invalidArgument (message : String)
  | unrecognizedClockType (name : String)
  /-- A call failed with a status; the message ends in its diagnostic. -/
  | failed (kind : FailureKind) (status : Status) (message : String)
  deriving DecidableEq

namespace Error

def ofRejection (rejection : Rejection) : Error :=
  invalidArgument rejection.message

/-- The error with a name, as a caller may make one. -/
def ofName? (name message : String) (status : Status) : Option Error :=
  if name = "InvalidArgument" then some (invalidArgument message)
  else if name = "UnrecognizedClockType" then some (unrecognizedClockType message)
  else if name = "Init" then some (failed .init status message)
  else if name = "Runtime" then some (failed .runtime status message)
  else if name = "State" then some (failed .state status message)
  else none

def name : Error → String
  | invalidArgument _ => "InvalidArgument"
  | unrecognizedClockType _ => "UnrecognizedClockType"
  | failed kind _ _ => kind.name

/-- The name of the kind; an unrecognized clock type is an invalid argument. -/
def kindName : Error → String
  | invalidArgument _ => "InvalidArgument"
  | unrecognizedClockType _ => "InvalidArgument"
  | failed kind _ _ => kind.name

/-- The status of the failed call, if there was one. -/
def status? : Error → Option Status
  | failed _ status _ => some status
  | _ => none

def message : Error → String
  | invalidArgument message => message
  | unrecognizedClockType name => name
  | failed _ _ message => message

def description : Error → String
  | invalidArgument message => "invalid argument: " ++ message
  | unrecognizedClockType name => "unrecognized clock type: " ++ name
  | failed _ status message => message ++ " (" ++ status.name ++ ")"

end Error

/-- The clock type with a name, or the error that names it. -/
def ClockType.named (name : String) : Except Error ClockType :=
  match ofNameOrAlias? name with
  | some type => .ok type
  | none => .error (.unrecognizedClockType name)

end RosClient
