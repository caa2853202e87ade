import RosClient.Handle.Context
import RosClient.Session.Basic

namespace RosClient

namespace Session

/-- Makes a context in a slot that is not in use. -/
def makeContext (session : Session) (slot : Slot) (owned : Bool) (action : Action Handle) :
    StepAnswer × Session :=
  if (session.contexts.get? slot).isSome then session.refuse .slotInUse
  else session.respondStore action fun after handle => after.putContext slot ⟨handle, owned⟩

/-- Puts a slot out of use; an owned context is released. -/
def dropContext (session : Session) (slot : Slot) : Session :=
  let session :=
    match session.contexts.get? slot with
    | some ⟨handle, true⟩ => { session with state := ContextHandle.release handle session.state }
    | _ => session
  { session with contexts := session.contexts.erase slot }

end Session

/-- Carries out a request of a context that a slot holds. -/
def ContextRequest.perform (slot : Slot) (held : HeldContext) (session : Session) :
    ContextRequest → StepAnswer × Session
  | init arguments domain =>
    session.respondUnit (ContextHandle.init held.handle arguments domain)
  | shutdown => session.respondUnit (ContextHandle.shutdown held.handle)
  | dispose =>
    session.respondStore (ContextHandle.dispose held.handle) fun after handle =>
      after.putContext slot { held with handle }
  | isValid => session.observe (.flag (ContextHandle.isValid held.handle session.state))
  | instanceId => session.observe (.count (ContextHandle.instanceId held.handle session.state))
  | domainId =>
    session.respond (ContextHandle.domain held.handle) fun domain => .count domain.toNat
  | unparsed => session.respond (ContextHandle.unparsed held.handle) .texts
  | handle => (.handle held.handle, session)
  | roundTrip => if held.owned then session.refuse .owned else (.roundTrip held.handle, session)

def ContextStep.perform (slot : Slot) (session : Session) : ContextStep → StepAnswer × Session
  | create => session.makeContext slot false (ContextHandle.create slot)
  | new arguments domain =>
    session.makeContext slot true (ContextHandle.new slot arguments domain)
  | newFromEnvironment arguments =>
    let configuration := Configuration.fromEnvironment session.state.environment
    session.makeContext slot true (ContextHandle.new slot arguments configuration.domainId)
  | use request =>
    let (held, session) := session.context slot
    request.perform slot held session
  | drop => (.done, session.dropContext slot)

end RosClient
