import RosClient.ClockType
import RosClient.Fault

namespace RosClient

/-- One look at the operating system's two clocks; a look may fail with a reason. -/
structure RealTime where
  system : Except String Nanos
  steady : Except String Nanos

structure Override where
  active : Bool
  value : Nanos
  deriving DecidableEq

/-- What initialisation gives a clock. -/
structure ClockStorage where
  override : Option Override
  deriving DecidableEq

structure Clock where
  type : ClockType
  storage : Option ClockStorage
  deriving DecidableEq

namespace Clock

/-- A clock before initialisation and after release. -/
def zero : Clock :=
  ⟨.uninitialized, none⟩

/-- The override of a new clock: off, with the value zero. -/
def newOverride : Override :=
  ⟨false, .zero⟩

/-- A clock just initialised for a type. -/
def new (type : ClockType) : Clock :=
  ⟨type, some ⟨if type = .rosTime then some newOverride else none⟩⟩

/-- Whether the clock is initialised and has something to read. -/
def isValid (clock : Clock) : Bool :=
  clock.storage.isSome && clock.type ≠ .uninitialized

/-- The override in the storage, whatever the type is now. -/
def storedOverride (clock : Clock) : Option Override :=
  clock.storage.bind ClockStorage.override

/-- The clock with another override in its storage. -/
def withOverride (clock : Clock) (override : Override) : Clock :=
  { clock with storage := clock.storage.map fun _ => ⟨some override⟩ }

end Clock

end RosClient
