import RosClient.Operation
import RosClient.Schedule

namespace RosClient

/-- Where an object lives: in a slot of the caller, behind a handle, or in storage that lasts for
one call only. -/
inductive Place where
  | caller (slot : Slot)
  | handle (slot : Slot)
  | transient
  deriving DecidableEq

/-- What runs when a timer fires: a list of operations for the time that has passed since the last
call, with a token for the caller, or a function of an owned timer, which may fail. -/
inductive Callback where
  | script (token : Nat) (body : Nanos → List Operation)
  | function (fails : Bool)

structure Timer where
  clock : Place
  callback : Option Callback
  schedule : Schedule

/-- What a call that went through hands on: the time since the last call, and what is to run. -/
structure Firing where
  elapsed : Nanos
  callback : Option Callback

end RosClient
