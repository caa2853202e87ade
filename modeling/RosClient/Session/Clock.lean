import RosClient.Session.Basic

namespace RosClient

namespace Session

/-- Makes a clock of a named type in a slot that is not in use. -/
def makeClock (session : Session) (slot : Slot) (typeName : String) (owned : Bool) :
    StepAnswer × Session :=
  if (session.clocks.get? slot).isSome then session.refuse .slotInUse
  else
    match ClockType.named typeName with
    | .error e => (.outcome (.error e), session)
    | .ok type =>
      session.respondStore (ClockHandle.create slot type) fun after handle =>
        after.putClock slot ⟨handle, if owned then some type else none⟩

/-- Disposes of the clock that a slot holds. -/
def disposeClock (session : Session) (slot : Slot) : StepAnswer × Session :=
  let (held, session) := session.clock slot
  session.respondStore (ClockHandle.dispose held.handle) fun after handle =>
    after.putClock slot { held with handle }

/-- Puts a slot out of use; an owned clock is released. -/
def dropClock (session : Session) (slot : Slot) : Session :=
  let session :=
    match (session.clocks.get? slot).bind HeldClock.owned? with
    | some clock => { session with state := clock.release session.state }
    | none => session
  { session with clocks := session.clocks.erase slot }

/-- Answers what an owned clock is asked. -/
def askOwned (session : Session) (held : HeldClock)
    (ask : OwnedClock → Session → StepAnswer × Session) : StepAnswer × Session :=
  match held.owned? with
  | some clock => ask clock session
  | none => session.refuse .notOwned

end Session

/-- Carries out a request of a clock that a slot holds. -/
def ClockRequest.perform (held : HeldClock) (session : Session) :
    ClockRequest → StepAnswer × Session
  | rawNow => session.respond (ClockHandle.now held.handle) .nanos
  | rawSet value => session.respondUnit (ClockHandle.setOverride held.handle value)
  | isOverrideEnabled => session.respond (ClockHandle.isOverrideEnabled held.handle) .flag
  | switchOverride enabled => session.respondUnit (ClockHandle.switchOverride held.handle enabled)
  | now => session.askOwned held fun clock session => session.respond clock.now .time
  | set time =>
    session.askOwned held fun clock session =>
      match time.read with
      | .ok time => session.respondUnit (clock.setOverride time)
      | .error e => (.outcome (.error e), session)
  | type => session.askOwned held fun clock session => session.observe (.text clock.type.name)
  | handle => (.handle held.handle, session)
  | roundTrip =>
    if held.owned.isSome then session.refuse .owned else (.roundTrip held.handle, session)

def ClockStep.perform (slot : Slot) (session : Session) : ClockStep → StepAnswer × Session
  | create typeName => session.makeClock slot typeName false
  | new typeName => session.makeClock slot typeName true
  | use request =>
    let (held, session) := session.clock slot
    request.perform held session
  | dispose =>
    if session.isClockInUse slot then session.refuse .clockInUse else session.disposeClock slot
  | drop =>
    if session.isClockInUse slot then session.refuse .clockInUse
    else (.done, session.dropClock slot)

end RosClient
