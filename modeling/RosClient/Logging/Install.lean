import RosClient.Configuration
import RosClient.LogRecord
import RosClient.Status
import RosClient.Text.Blank

namespace RosClient

/-- What a library for logging makes of filters: which filter a text describes, and whether a filter
lets a record at a level through for a target. -/
structure LogBackend where
  Filter : Type
  parse : String → Filter
  enabled : Filter → String → Level → Bool

/-- The logger of a process: its filter, and what it has written. -/
structure Logger (backend : LogBackend) where
  filter : backend.Filter
  written : List LogRecord := []

namespace Logger

/-- The target of what the status level reports about logging. -/
def statusTarget : String := "rclbridge_c::logging"

/-- The target of what the handle level reports about logging. -/
def handleTarget : String := "rclbridge"

/-- The text of a variable without the blanks at its ends, unless nothing is left. -/
def filterFrom (environment : Environment) (key : Variable) : Option String :=
  (environment.read key).bind fun text =>
    if Text.trim text = "" then none else some (Text.trim text)

/-- The text of the filter for an environment: from `RUST_LOG`, or else from the library's own
variable, or else a fallback. -/
def filterText (environment : Environment) (fallback : String) : String :=
  ((filterFrom environment .rustLog).or (filterFrom environment .logLevel)).getD fallback

variable {backend : LogBackend}

/-- Writes a record, if the filter lets it through. -/
def write (logger : Logger backend) (target : String) (record : LogRecord) : Logger backend :=
  if backend.enabled logger.filter target record.level then
    { logger with written := logger.written ++ [record] }
  else logger

/-- Installs a logger, unless there is one. -/
def install (environment : Environment) (fallback : String) :
    Option (Logger backend) → Status × Logger backend
  | some logger => (.alreadyInit, logger)
  | none =>
    let text := filterText environment fallback
    let logger : Logger backend := { filter := backend.parse text }
    (.ok, logger.write statusTarget (.loggerInstalled text))

/-- Starts logging for the handle level: installs a logger, and the first time reports a
configuration that is not the default. -/
def start (environment : Environment) (installed : Option (Logger backend)) : Logger backend :=
  match install environment "info" installed with
  | (.alreadyInit, logger) => logger.write handleTarget .loggerKept
  | (_, logger) =>
    let configuration := Configuration.fromEnvironment environment
    if configuration.isCustom then logger.write handleTarget (.configured configuration)
    else logger

end Logger

end RosClient
