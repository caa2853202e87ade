import RosClient.Run
import RosClient.Session.Clock
import RosClient.Session.Context
import RosClient.Session.Source
import RosClient.Session.Timer

namespace RosClient

/-- Carries out an operation of the status level in a session. -/
def Session.runOperation (session : Session) (operation : Operation) : StepAnswer × Session :=
  let (reply, after) := run session.depth operation session.state
  (.reply reply, { session with state := after })

/-- Carries out a step. The process of a session has its logger already. -/
def Step.perform (session : Session) : Step → StepAnswer × Session
  | operation asked => session.runOperation asked
  | context slot step => step.perform slot session
  | clock slot step => step.perform slot session
  | timer slot step => step.perform slot session
  | source slot step => step.perform slot session
  | startLogging => (.done, { session with state := session.state.write [.loggerKept] })

end RosClient
