import RosClient.Error
import RosClient.Nanos

namespace RosClient

structure Time where
  nanoseconds : Nanos
  type : ClockType
  nonnegative : 0 ≤ nanoseconds.value
  deriving DecidableEq

/-- A time as a message carries it. -/
structure TimeMessage where
  seconds : Int32
  nanoseconds : UInt32
  deriving DecidableEq

def nanosPerSecond : Int := 1000000000

/-- The last message that a time is written as. -/
def TimeMessage.last : TimeMessage :=
  ⟨2147483647, 999999999⟩

namespace Time

/-- The epoch. -/
def zero (type : ClockType) : Time :=
  ⟨.zero, type, Int.le_refl 0⟩

instance : Inhabited Time := ⟨zero default⟩

/-- The time so many nanoseconds after the epoch. -/
def ofNanos (nanoseconds : Nanos) (type : ClockType) : Except Error Time :=
  if h : 0 ≤ nanoseconds.value then .ok ⟨nanoseconds, type, h⟩
  else .error (.ofRejection (.negativeTime nanoseconds.value))

/-- The time so many seconds and nanoseconds after the epoch. -/
def ofParts (seconds nanoseconds : Int) (type : ClockType) : Except Error Time :=
  if seconds < 0 ∨ nanoseconds < 0 then .error (.ofRejection .negativePart)
  else
    let total := seconds * nanosPerSecond + nanoseconds
    if total ≤ Nanos.last.value then ofNanos (.clamp total) type
    else .error (.ofRejection (.overflow seconds nanoseconds))

/-- The same instant on a clock of another type. -/
def relabel (time : Time) (type : ClockType) : Time :=
  { time with type }

def ofMessage (message : TimeMessage) (type : ClockType) : Except Error Time :=
  ofParts message.seconds.toInt message.nanoseconds.toNat type

def toMessage (time : Time) : TimeMessage :=
  let seconds := time.nanoseconds.value / nanosPerSecond
  if seconds ≤ TimeMessage.last.seconds.toInt then
    ⟨.ofInt seconds, .ofNat (time.nanoseconds.value % nanosPerSecond).toNat⟩
  else .last

end Time

/-- A time as a caller spells it: a name for the clock type, and the parts that are given. -/
structure TimeSpec where
  typeName : String
  seconds : Option Int
  nanoseconds : Option Nanos

/-- The time that is spelled. The name of the type is read first. -/
def TimeSpec.read (spec : TimeSpec) : Except Error Time :=
  match ClockType.named spec.typeName with
  | .error e => .error e
  | .ok type =>
    match spec.seconds, spec.nanoseconds with
    | some seconds, nanoseconds => Time.ofParts seconds (nanoseconds.getD .zero).value type
    | none, some nanoseconds => Time.ofNanos nanoseconds type
    | none, none => .ok (.zero type)

end RosClient
