import RosClient.Operation
import RosClient.Time

namespace RosClient

/-- A value in an answer. -/
inductive Value where
  | nothing
  | flag (flag : Bool)
  | count (count : Nat)
  | nanos (nanos : Nanos)
  | text (text : String)
  | texts (texts : List String)
  | time (time : Time)
  deriving DecidableEq

/-- The answer of one operation. -/
inductive Answer where
  | done
  | value (value : Value)
  /-- A status, and the output if the call went through and has one. -/
  | status (status : Status) (output : Option Value)
  /-- The status of a timer's call; if a callback fired, its token and the time since the last
  call. -/
  | called (status : Status) (fired : Option (Nat × Nanos))
  /-- The public fields of a clock: its type, and whether it lacks storage. -/
  | fields (type : ClockType) (empty : Bool)
  /-- Whether a diagnostic was pending before and after a call on another thread. -/
  | thread (before : Bool) (status : Status) (after : Bool)
  | refused (reason : Refusal)
  deriving DecidableEq

/-- What a caller sees of one operation: its answer, the replies of the callback's operations if one
ran, and the diagnostic that is pending afterwards. -/
structure Reply where
  operation : Operation
  answer : Answer
  inner : List Reply
  pending : Option String

end RosClient
