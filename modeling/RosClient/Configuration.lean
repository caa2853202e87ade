import RosClient.DomainId

namespace RosClient

structure Configuration where
  domainId : Option DomainId := none
  logLevel : String := "info"
  useSimTime : Bool := false
  deriving DecidableEq

namespace Configuration

/-- Whether a flag is on: `1`, or `true` in any mixture of ASCII capitals and small letters. -/
def isOn (text : String) : Bool :=
  text = "1" || text.toList.map Char.toLower = ['t', 'r', 'u', 'e']

/-- The library's own domain variable comes first; `ROS_DOMAIN_ID` is consulted if that one names no
domain. -/
def domainFrom (environment : Environment) : Option DomainId :=
  ((environment.read .domainId).bind DomainId.parse?).or
    ((environment.read .rosDomainId).bind DomainId.parse?)

/-- The log level is taken as it stands, blanks included, unless it is empty. -/
def logLevelFrom (environment : Environment) : String :=
  match environment.read .logLevel with
  | some text => if text = "" then "info" else text
  | none => "info"

def fromEnvironment (environment : Environment) : Configuration where
  domainId := domainFrom environment
  logLevel := logLevelFrom environment
  useSimTime := (environment.read .useSimTime).any isOn

/-- Whether anything differs from the default. -/
def isCustom (configuration : Configuration) : Bool :=
  configuration.domainId.isSome || configuration.logLevel ≠ "info" || configuration.useSimTime

end Configuration

end RosClient
