import RosClient.ClockType
import RosClient.DomainId
import RosClient.Nanos

namespace RosClient

/-- The caller's name for a place where an object lives. -/
abbrev Slot := Int

/-- Why an operation or a step is not carried out. -/
inductive Refusal where
  | countBeyondVector
  | clockType
  | unknownStep
  | slotInUse
  | notOwned
  | owned
  | clockInUse
  | noTimeSource
  deriving DecidableEq

def Refusal.message : Refusal → String
  | countBeyondVector => "argc beyond argv"
  | clockType => "clock type"
  | unknownStep => "unknown step"
  | slotInUse => "slot in use"
  | notOwned => "not owned"
  | owned => "owned"
  | clockInUse => "clock in use"
  | noTimeSource => "no time source"

/-- Calls on init options. A query says whether it has a place for its output. -/
inductive OptionsCall where
  | init
  | setDomain (domain : DomainId)
  | getDomain (output : Bool)
  | fini
  deriving DecidableEq

/-- Calls on a context, apart from its initialisation. -/
inductive ContextCall where
  | shutdown
  | isValid
  | instanceId
  | domainId (output : Bool)
  | unparsedCount (output : Bool)
  | unparsed (index : Nat)
  | fini
  deriving DecidableEq

/-- Calls on a clock, and the two ways to look at its public fields. -/
inductive ClockCall where
  | init (type : ClockType)
  | isValid
  | now (output : Bool)
  | enableOverride
  | disableOverride
  | isOverrideEnabled (output : Bool)
  | setOverride (value : Nanos)
  | fini
  | setType (type : ClockType)
  | fields
  deriving DecidableEq

/-- Calls on a timer, apart from its initialisation. -/
inductive TimerCall where
  | call
  | isReady (output : Bool)
  | isCanceled (output : Bool)
  | reset
  | cancel
  | untilNextCall (output : Bool)
  | sinceLastCall (output : Bool)
  | period (output : Bool)
  | exchangePeriod (period : Nanos) (output : Bool)
  | fini
  deriving DecidableEq

inductive Operation where
  | errorIsSet
  | errorText
  | resetError
  /-- Looks at the pending diagnostic of a new thread, before and after a failing call there. -/
  | otherThread
  | setVariable (key : Variable) (content : Option (List UInt8))
  | installLogger
  | options (options : Option Slot) (request : OptionsCall)
  | initContext (count : Int) (vector : Option (List (Option (List UInt8))))
      (options context : Option Slot)
  | context (context : Option Slot) (request : ContextCall)
  | clock (clock : Option Slot) (request : ClockCall)
  /-- The callback, if there is one, has a token of the caller's and, for the time that has passed
  since the last call, a body. -/
  | initTimer (timer clock context : Option Slot) (period : Nanos) (callback : Option Nat)
      (body : Nanos → List Operation)
  | timer (timer : Option Slot) (request : TimerCall)
  | refuse (reason : Refusal)

end RosClient
