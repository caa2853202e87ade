import RosClient.Call.Clock
import RosClient.Handle.Basic
import RosClient.Time

namespace RosClient

namespace ClockHandle

/-- A handle to a new clock. -/
def create (slot : Slot) (type : ClockType) : Action Handle := do
  modify fun state => { state with objects := state.objects.setClock (.handle slot) .zero }
  attempt .initClock (Call.initClock type (some (.handle slot)))
  return some (.handle slot)

def isValid (handle : Handle) (state : State) : Bool :=
  state.objects.isClockValid handle

def now (handle : Handle) : Action Nanos :=
  attempt .clockNow (Call.clockNow handle true)

def isOverrideEnabled (handle : Handle) : Action Bool := do
  if isValid handle (← get) then attempt .queryOverride (Call.isOverrideEnabled handle true)
  else return false

def switchOverride (handle : Handle) (enabled : Bool) : Action Unit := do
  if isValid handle (← get) then
    attempt .switchOverride
      (if enabled then Call.enableOverride handle else Call.disableOverride handle)

def setOverride (handle : Handle) (value : Nanos) : Action Unit := do
  if isValid handle (← get) then attempt .setOverride (Call.setOverride handle value)

/-- Releases the clock and empties the handle. -/
def dispose (handle : Handle) : Action Handle := do
  if handle.isSome then attempt .finiClock (Call.finiClock handle)
  return none

end ClockHandle

structure OwnedClock where
  handle : Handle
  type : ClockType
  deriving DecidableEq

namespace OwnedClock

/-- What the clock reads; a negative reading is not a time. -/
def now (clock : OwnedClock) : Action Time := do
  let nanoseconds ← ClockHandle.now clock.handle
  MonadExcept.ofExcept (Time.ofNanos nanoseconds clock.type)

def switchOverride (clock : OwnedClock) (enabled : Bool) : Action Unit :=
  ClockHandle.switchOverride clock.handle enabled

def setOverride (clock : OwnedClock) (time : Time) : Action Unit :=
  ClockHandle.setOverride clock.handle time.nanoseconds

/-- What the end of an owned clock does: disposes of it. -/
def release (clock : OwnedClock) (state : State) : State :=
  state.release (clock.type.name ++ " clock dispose") (ClockHandle.dispose clock.handle)

end OwnedClock

end RosClient
