import RosClient.Session.Slots
import RosClient.Session.Step
import RosClient.TimeSource

namespace RosClient

structure HeldContext where
  handle : Handle
  owned : Bool

structure HeldClock where
  handle : Handle
  /-- The type of an owned clock. -/
  owned : Option ClockType

structure HeldTimer where
  handle : Handle
  /-- The slot of the clock on which the timer was made. -/
  clock : Option Slot
  owned : Bool

structure Session where
  state : State
  contexts : Slots HeldContext := {}
  clocks : Slots HeldClock := {}
  timers : Slots HeldTimer := {}
  sources : Slots TimeSource := {}
  /-- How deep callbacks run. -/
  depth : Nat

def HeldContext.empty : HeldContext := ⟨none, false⟩

def HeldClock.empty : HeldClock := ⟨none, none⟩

def HeldTimer.empty : HeldTimer := ⟨none, none, false⟩

/-- The clock of a slot, if it is owned. -/
def HeldClock.owned? (held : HeldClock) : Option OwnedClock :=
  held.owned.map fun type => ⟨held.handle, type⟩

namespace Session

def putContext (session : Session) (slot : Slot) (held : HeldContext) : Session :=
  { session with contexts := session.contexts.put slot held }

def putClock (session : Session) (slot : Slot) (held : HeldClock) : Session :=
  { session with clocks := session.clocks.put slot held }

def putTimer (session : Session) (slot : Slot) (held : HeldTimer) : Session :=
  { session with timers := session.timers.put slot held }

def putSource (session : Session) (slot : Slot) (source : TimeSource) : Session :=
  { session with sources := session.sources.put slot source }

/-- What the slot of a context holds; a slot not in use comes into use with an empty handle. -/
def context (session : Session) (slot : Slot) : HeldContext × Session :=
  match session.contexts.get? slot with
  | some held => (held, session)
  | none => (.empty, session.putContext slot .empty)

/-- What the slot of a clock holds; a slot not in use comes into use with an empty handle. -/
def clock (session : Session) (slot : Slot) : HeldClock × Session :=
  match session.clocks.get? slot with
  | some held => (held, session)
  | none => (.empty, session.putClock slot .empty)

/-- What the slot of a timer holds; a slot not in use comes into use with an empty handle. -/
def timer (session : Session) (slot : Slot) : HeldTimer × Session :=
  match session.timers.get? slot with
  | some held => (held, session)
  | none => (.empty, session.putTimer slot .empty)

/-- Carries out an action. -/
def act {α : Type} (session : Session) (action : Action α) : Except Error α × Session :=
  match action session.state with
  | .ok value after => (.ok value, { session with state := after })
  | .error e after => (.error e, { session with state := after })

/-- Carries out an action and answers its value. -/
def answer {α : Type} (session : Session) (action : Action α) (value : α → Value) :
    Outcome × Session :=
  match session.act action with
  | (.ok result, after) => (.value (value result), after)
  | (.error e, after) => (.error e, after)

/-- The answer of an action, as the answer of a step. -/
def respond {α : Type} (session : Session) (action : Action α) (value : α → Value) :
    StepAnswer × Session :=
  let (outcome, after) := session.answer action value
  (.outcome outcome, after)

def respondUnit (session : Session) (action : Action Unit) : StepAnswer × Session :=
  session.respond action fun _ => .nothing

def observe (session : Session) (value : Value) : StepAnswer × Session :=
  (.outcome (.value value), session)

def refuse (session : Session) (reason : Refusal) : StepAnswer × Session :=
  (.refused reason, session)

/-- Carries out an action that makes an object or empties a handle; what it ends with is stored. -/
def store {α : Type} (session : Session) (action : Action α) (put : Session → α → Session) :
    Outcome × Session :=
  match session.act action with
  | (.ok result, after) => (.value .nothing, put after result)
  | (.error e, after) => (.error e, after)

/-- Stores what an action ends with, as the answer of a step. -/
def respondStore {α : Type} (session : Session) (action : Action α)
    (put : Session → α → Session) : StepAnswer × Session :=
  let (outcome, after) := session.store action put
  (.outcome outcome, after)

/-- Whether a clock may not be released: a timer runs on it, or a time source drives it. -/
def isClockInUse (session : Session) (slot : Slot) : Bool :=
  session.timers.any (fun held => held.handle.isSome && held.clock = some slot) ||
    session.sources.any (·.hasClock slot)

/-- Whether the timer behind a handle has a callback. -/
def hasCallback (session : Session) (handle : Handle) : Bool :=
  (handle.bind session.state.objects.timers).any fun timer => timer.callback.isSome

end Session

end RosClient
