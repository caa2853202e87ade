namespace RosClient

/-- What a clock reads. A clock of type `rosTime` reads the system clock until its override is
switched on. -/
inductive ClockType where
  | uninitialized
  | rosTime
  | systemTime
  | steadyTime
  deriving DecidableEq

namespace ClockType

def all : List ClockType :=
  [uninitialized, rosTime, systemTime, steadyTime]

def name : ClockType → String
  | uninitialized => "UNINITIALIZED"
  | rosTime => "ROS_TIME"
  | systemTime => "SYSTEM_TIME"
  | steadyTime => "STEADY_TIME"

def code : ClockType → Nat
  | uninitialized => 0
  | rosTime => 1
  | systemTime => 2
  | steadyTime => 3

/-- The clock type with exactly this name. -/
def ofName? (name : String) : Option ClockType :=
  all.find? fun type => type.name = name

/-- The clock type with this name, or with the longer name of the type `uninitialized`. -/
def ofNameOrAlias? (name : String) : Option ClockType :=
  if name = "TIME_SOURCE_UNINITIALIZED" then some uninitialized else ofName? name

instance : Inhabited ClockType := ⟨systemTime⟩

end ClockType

end RosClient
