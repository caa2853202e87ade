import RosClient.Arguments
import RosClient.DomainId

namespace RosClient

/-- Options of a context: the domain that is asked for. -/
structure InitOptions where
  domain : DomainId
  deriving DecidableEq

/-- Options as they are when new: the domain is left to the environment. -/
def InitOptions.new : InitOptions :=
  ⟨.unset⟩

structure Context where
  instance? : Option Nat
  domain : DomainId
  arguments : Arguments
  deriving DecidableEq

namespace Context

/-- Whether the context has not been shut down. -/
def isValid (context : Context) : Bool :=
  context.instance?.isSome

/-- The instance id, or zero after shutdown. -/
def reportedId (context : Context) : Nat :=
  context.instance?.getD 0

def shutDown (context : Context) : Context :=
  { context with instance? := none }

end Context

end RosClient
