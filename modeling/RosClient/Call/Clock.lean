import RosClient.State

namespace RosClient

/-- Whether a pointer leads to a clock that is initialised and has something to read. -/
def Objects.isClockValid (objects : Objects) (pointer : Option Place) : Bool :=
  pointer.any fun place => (objects.clocks place).isValid

namespace Call

/-- The reading of one of the operating system's clocks. -/
def readReal (reading : Except String Nanos) : Call Nanos := do
  match reading with
  | .ok now => return now
  | .error reason =>
    diagnose (.readingFailed reason)
    throw .error

/-- What the clock at a place reads. -/
def readClock (place : Place) : Call Nanos := do
  let state ← get
  let clock := state.objects.clocks place
  if !clock.isValid then
    diagnose .clockUnreadable
    throw .error
  match clock.type with
  | .rosTime =>
    match clock.storedOverride with
    | some override =>
      if override.active then return override.value else readReal state.realTime.system
    | none => readReal state.realTime.system
  | .systemTime => readReal state.realTime.system
  | .steadyTime => readReal state.realTime.steady
  | .uninitialized =>
    -- A clock without a type is not valid, so this is never reached.
    throw .error

def initClock (type : ClockType) (pointer : Option Place) : Call Unit := do
  let place ← required "clock" pointer .invalidArgument
  if ((← get).objects.clocks place).storage.isSome then
    diagnose .clockInitialized
    throw .alreadyInit
  store fun objects => objects.setClock place (.new type)

def clockNow (pointer : Option Place) (output : Bool) : Call Nanos := do
  let place ← required "clock" pointer .invalidArgument
  requireOutput "time_point_value" output
  readClock place

/-- The override of the clock at a place, for an action that needs it. -/
def rosOverride (place : Place) (action : OverrideAction) : Call Override := do
  let clock := (← get).objects.clocks place
  if clock.type ≠ .rosTime then
    diagnose (.notRosTime action)
    throw .error
  let some override := clock.storedOverride
    | diagnose .overrideMissing
      throw .error
  return override

/-- Changes the override of a clock. -/
def changeOverride (action : OverrideAction) (change : Override → Override)
    (pointer : Option Place) : Call Unit := do
  let place ← required "clock" pointer .invalidArgument
  let override ← rosOverride place action
  store fun objects =>
    objects.setClock place ((objects.clocks place).withOverride (change override))

def enableOverride (pointer : Option Place) : Call Unit :=
  changeOverride .enable (fun override => { override with active := true }) pointer

def disableOverride (pointer : Option Place) : Call Unit :=
  changeOverride .disable (fun override => { override with active := false }) pointer

/-- Stores the value that the clock reads while its override is on. -/
def setOverride (pointer : Option Place) (value : Nanos) : Call Unit :=
  changeOverride .set (fun override => { override with value }) pointer

def isOverrideEnabled (pointer : Option Place) (output : Bool) : Call Bool := do
  let place ← required "clock" pointer .invalidArgument
  requireOutput "is_enabled" output
  let override ← rosOverride place .query
  return override.active

def finiClock (pointer : Option Place) : Call Unit := do
  let place ← required "clock" pointer .invalidArgument
  if ((← get).objects.clocks place).storage.isNone then
    diagnose .clockUninitialized
    throw .invalidArgument
  store fun objects => objects.setClock place .zero

end Call

end RosClient
