import RosClient.Configuration
import RosClient.Session.Basic

namespace RosClient

namespace Session

/-- Makes a time source in a slot that is not in use. -/
def makeSource (session : Session) (slot : Slot) (active : Bool) : StepAnswer × Session :=
  if (session.sources.get? slot).isSome then session.refuse .slotInUse
  else (.done, session.putSource slot (.new active))

/-- The owned clock of a slot; the slot does not come into use by this. -/
def ownedClock? (session : Session) (slot : Slot) : Option OwnedClock :=
  (session.clocks.get? slot).bind HeldClock.owned?

end Session

/-- Carries out a request of the time source that a slot holds. -/
def SourceRequest.perform (slot : Slot) (source : TimeSource) (session : Session) :
    SourceRequest → StepAnswer × Session
  | isActive => session.observe (.flag source.active)
  | setActive active =>
    if source.active = active then session.observe .nothing
    else
      let source := source.withActive active
      (session.putSource slot source).respondUnit source.publishActive
  | clockCount => session.observe (.count source.clocks.length)
  | update time =>
    match time.read with
    | .error e => (.outcome (.error e), session)
    | .ok time =>
      let source := source.withTime time
      (session.putSource slot source).respondUnit source.publishTime
  | last => session.observe (.time source.last)
  | attach clock =>
    match session.ownedClock? clock with
    | none => session.refuse .notOwned
    | some owned =>
      session.respondStore (source.attach clock owned) fun after source =>
        after.putSource slot source
  | detach clock =>
    match session.ownedClock? clock with
    | none => session.refuse .notOwned
    | some _ => (.done, session.putSource slot (source.detach clock))

def SourceStep.perform (slot : Slot) (session : Session) : SourceStep → StepAnswer × Session
  | new active => session.makeSource slot active
  | newFromEnvironment =>
    session.makeSource slot
      (Configuration.fromEnvironment session.state.environment).useSimTime
  | use request =>
    match session.sources.get? slot with
    | some source => request.perform slot source session
    | none => session.refuse .noTimeSource
  | drop => (.done, { session with sources := session.sources.erase slot })

end RosClient
