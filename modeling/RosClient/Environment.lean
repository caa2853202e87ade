import RosClient.Text.Utf8

namespace RosClient

inductive Variable where
  | rustLog
  | logLevel
  | domainId
  | useSimTime
  | rosDomainId
  deriving DecidableEq

namespace Variable

def all : List Variable :=
  [rustLog, logLevel, domainId, useSimTime, rosDomainId]

def name : Variable → String
  | rustLog => "RUST_LOG"
  | logLevel => "RCLBRIDGE_LOG_LEVEL"
  | domainId => "RCLBRIDGE_DOMAIN_ID"
  | useSimTime => "RCLBRIDGE_USE_SIM_TIME"
  | rosDomainId => "ROS_DOMAIN_ID"

def ofName? (name : String) : Option Variable :=
  all.find? fun key => key.name = name

end Variable

/-- What each variable holds, if it is set. -/
abbrev Environment := Variable → Option (List UInt8)

namespace Environment

/-- No variable is set. -/
def empty : Environment := fun _ => none

/-- The text of a variable, if it is set and can be read. -/
def read (environment : Environment) (key : Variable) : Option String :=
  (environment key).bind Text.Utf8.decode?

/-- Sets a variable, or unsets it. -/
def write (environment : Environment) (key : Variable) (content : Option (List UInt8)) :
    Environment :=
  fun other => if other = key then content else environment other

end Environment

end RosClient
