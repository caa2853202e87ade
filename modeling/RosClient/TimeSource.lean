import RosClient.Handle.Clock

namespace RosClient

structure TimeSource where
  clocks : List (Slot × OwnedClock) := []
  active : Bool
  last : Time

namespace TimeSource

/-- A source without clocks, at the epoch of ROS time. -/
def new (active : Bool) : TimeSource where
  active := active
  last := .zero .rosTime

def withActive (source : TimeSource) (active : Bool) : TimeSource :=
  { source with active }

def withTime (source : TimeSource) (time : Time) : TimeSource :=
  { source with last := time.relabel .rosTime }

def hasClock (source : TimeSource) (slot : Slot) : Bool :=
  source.clocks.any fun entry => entry.1 = slot

/-- Hands the last time to every clock. -/
def publishTime (source : TimeSource) : Action Unit :=
  source.clocks.forM fun entry => entry.2.setOverride source.last

/-- Switches every clock as the source is switched. -/
def publishActive (source : TimeSource) : Action Unit := do
  modify fun state => state.write [.rosTimeSwitched source.active source.clocks.length]
  source.clocks.forM fun entry => entry.2.switchOverride source.active

/-- Attaches a clock of ROS time. -/
def attach (source : TimeSource) (slot : Slot) (clock : OwnedClock) : Action TimeSource := do
  if clock.type = .rosTime then
    clock.setOverride source.last
    clock.switchOverride source.active
    return { source with clocks := source.clocks ++ [(slot, clock)] }
  else reject (.cannotAttach clock.type)

/-- Detaches a clock, however often it was attached. -/
def detach (source : TimeSource) (slot : Slot) : TimeSource :=
  { source with clocks := source.clocks.filter fun entry => entry.1 ≠ slot }

end TimeSource

end RosClient
