import RosClient.Handle.Timer
import RosClient.Session.Basic

namespace RosClient

namespace Session

/-- Stores a new timer on the clock of a slot. -/
def storeTimer (session : Session) (slot clock : Slot) (owned : Bool) (action : Action Handle) :
    Outcome × Session :=
  session.store action fun after handle => after.putTimer slot ⟨handle, some clock, owned⟩

/-- Makes a timer without a callback in a slot that is not in use. -/
def makeTimer (session : Session) (slot clock context : Slot) (period : Nanos) :
    StepAnswer × Session :=
  if (session.timers.get? slot).isSome then session.refuse .slotInUse
  else
    let (heldContext, session) := session.context context
    let (heldClock, session) := session.clock clock
    let (outcome, after) := session.storeTimer slot clock false
      (TimerHandle.create slot heldClock.handle heldContext.handle period none)
    (.outcome outcome, after)

/-- Makes an owned timer in a slot that is not in use; it needs an owned clock and context. With a
function, the answer tells whether it is kept. -/
def makeOwnedTimer (session : Session) (slot clock context : Slot) (period : Nanos)
    (function : Option Bool) : StepAnswer × Session :=
  if (session.timers.get? slot).isSome then session.refuse .slotInUse
  else
    let (heldContext, session) := session.context context
    let (heldClock, session) := session.clock clock
    if heldContext.owned && heldClock.owned.isSome then
      let (outcome, after) := session.storeTimer slot clock true
        (TimerHandle.create slot heldClock.handle heldContext.handle period
          (function.map .function))
      match function, after.timers.get? slot with
      | none, _ => (.outcome outcome, after)
      | some _, some held => (.kept outcome (after.hasCallback held.handle), after)
      | some _, none => (.kept outcome false, after)
    else session.refuse .notOwned

/-- Disposes of the timer that a slot holds. -/
def disposeTimer (session : Session) (slot : Slot) : StepAnswer × Session :=
  let (held, session) := session.timer slot
  let (outcome, after) := session.store (TimerHandle.dispose held.handle) fun after handle =>
    after.putTimer slot { held with handle }
  (.kept outcome (after.hasCallback held.handle), after)

/-- Puts a slot out of use; an owned timer is released. -/
def dropTimer (session : Session) (slot : Slot) : StepAnswer × Session :=
  match session.timers.get? slot with
  | none => (.dropped false, session)
  | some held =>
    let state :=
      if held.owned then TimerHandle.release held.handle session.state else session.state
    let after := { session with state, timers := session.timers.erase slot }
    (.dropped (held.owned && after.hasCallback held.handle), after)

end Session

/-- Carries out a request of a live timer. -/
def TimerRequest.perform (place : Place) (session : Session) :
    TimerRequest → StepAnswer × Session
  | isReady => session.respond (TimerHandle.isReady place) .flag
  | isCanceled => session.respond (TimerHandle.isCanceled place) .flag
  | reset => session.respondUnit (TimerHandle.reset place)
  | cancel => session.respondUnit (TimerHandle.cancel place)
  | untilNextCall => session.respond (TimerHandle.untilNextCall place) .nanos
  | sinceLastCall => session.respond (TimerHandle.sinceLastCall place) .nanos
  | period => session.respond (TimerHandle.period place) .nanos
  | exchangePeriod next => session.respond (TimerHandle.exchangePeriod place next) .nanos
  | setPeriod next => session.respondUnit (TimerHandle.setPeriod place next)
  | call =>
    match session.act (TimerHandle.call place) with
    | (.ok elapsed, after) => (.fired (.value .nothing) elapsed, after)
    | (.error e, after) => (.fired (.error e) [], after)

def TimerStep.perform (slot : Slot) (session : Session) : TimerStep → StepAnswer × Session
  | create clock context period => session.makeTimer slot clock context period
  | new clock context period function =>
    session.makeOwnedTimer slot clock context period function
  | use request =>
    let (held, session) := session.timer slot
    match held.handle with
    | some place => request.perform place session
    | none => (.outcome .misuse, session)
  | hasCallback =>
    let (held, session) := session.timer slot
    if held.owned then session.observe (.flag (session.hasCallback held.handle))
    else session.refuse .notOwned
  | handle =>
    let (held, session) := session.timer slot
    (.handle held.handle, session)
  | dispose => session.disposeTimer slot
  | drop => session.dropTimer slot

end RosClient
