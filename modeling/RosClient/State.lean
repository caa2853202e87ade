import RosClient.Clock
import RosClient.Context
import RosClient.LogRecord
import RosClient.Timer

namespace RosClient

/-- One look at a table of objects with the entry of one place replaced. -/
def replace {α : Type} (table : Place → α) (place : Place) (entry : α) : Place → α :=
  fun other => if other = place then entry else table other

@[simp] theorem replace_self {α : Type} (table : Place → α) (place : Place) (entry : α) :
    replace table place entry place = entry := by
  simp [replace]

theorem replace_of_ne {α : Type} (table : Place → α) {place other : Place} (entry : α)
    (h : other ≠ place) : replace table place entry other = table other := by
  simp [replace, h]

theorem replace_of_eq {α : Type} {table : Place → α} {place : Place} {entry : α}
    (same : table place = entry) : replace table place entry = table := by
  funext other
  unfold replace
  split
  · next here => rw [here, same]
  · rfl

theorem replace_replace {α : Type} (table : Place → α) (place : Place) (first second : α) :
    replace (replace table place first) place second = replace table place second := by
  funext other
  unfold replace
  split <;> rfl

structure Objects where
  options : Place → Option InitOptions := fun _ => none
  contexts : Place → Option Context := fun _ => none
  clocks : Place → Clock := fun _ => .zero
  timers : Place → Option Timer := fun _ => none
  nextId : Nat := 1

namespace Objects

def setOptions (objects : Objects) (place : Place) (options : Option InitOptions) : Objects :=
  { objects with options := replace objects.options place options }

def setContext (objects : Objects) (place : Place) (context : Option Context) : Objects :=
  { objects with contexts := replace objects.contexts place context }

def setClock (objects : Objects) (place : Place) (clock : Clock) : Objects :=
  { objects with clocks := replace objects.clocks place clock }

def setTimer (objects : Objects) (place : Place) (timer : Option Timer) : Objects :=
  { objects with timers := replace objects.timers place timer }

end Objects

/-- The state of a process as one of its threads sees it. -/
structure State where
  objects : Objects := {}
  /-- The diagnostic of the last refusal that nobody has taken or cleared. -/
  pending : Option String := none
  /-- All records so far, in order. -/
  log : List LogRecord := []
  environment : Environment := .empty
  /-- The operating system's clocks at each call that is carried out. -/
  readings : Nat → RealTime
  /-- How many calls have been carried out. -/
  calls : Nat := 0

/-- A call of the status level. It reads and writes the state in the order of its body, and what it
has written stays written when it ends with a status in the place of a value. -/
abbrev Call := EStateM Status State

namespace State

/-- The operating system's clocks at this call. -/
def realTime (state : State) : RealTime :=
  state.readings state.calls

def write (state : State) (records : List LogRecord) : State :=
  { state with log := state.log ++ records }

/-- Makes a fault's diagnostic the pending one. -/
def raise (fault : Fault) (state : State) : State :=
  let overwritten :=
    match state.pending with
    | some previous => [LogRecord.overwritten previous]
    | none => []
  { state.write (.diagnostic fault.diagnostic :: overwritten) with
    pending := some fault.diagnostic }

/-- Carries out a call. -/
def perform {α : Type} (call : Call α) (state : State) : Except Status α × State :=
  match call state with
  | .ok value after => (.ok value, { after with calls := after.calls + 1 })
  | .error status after => (.error status, { after with calls := after.calls + 1 })

/-- The pending diagnostic, which is no longer pending then. -/
def takeDiagnostic (state : State) : String × State :=
  match state.pending with
  | some text => (text, { state with pending := none })
  | none => ("unknown error", state)

@[simp] theorem objects_raise (fault : Fault) (state : State) :
    (state.raise fault).objects = state.objects :=
  rfl

end State

namespace Call

/-- Leaves the diagnostic of a fault. -/
def diagnose (fault : Fault) : Call Unit :=
  modify (State.raise fault)

def report (record : LogRecord) : Call Unit :=
  modify fun state => state.write [record]

def store (change : Objects → Objects) : Call Unit :=
  modify fun state => { state with objects := change state.objects }

/-- The place behind a pointer that a call needs. -/
def required (name : String) (pointer : Option Place) (missing : Status) : Call Place := do
  let some place := pointer
    | diagnose (.nullArgument name)
      throw missing
  return place

/-- Asks a query for a place for its output. -/
def requireOutput (name : String) (output : Bool) : Call Unit := do
  if !output then
    diagnose (.nullArgument name)
    throw .invalidArgument

end Call

end RosClient
