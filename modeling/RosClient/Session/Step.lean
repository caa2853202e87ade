import RosClient.Answer
import RosClient.Handle.Basic

namespace RosClient

inductive ContextRequest where
  | init (arguments : List String) (domain : Option DomainId)
  | shutdown
  | dispose
  | isValid
  | instanceId
  | domainId
  | unparsed
  | handle
  | roundTrip

inductive ContextStep where
  | create
  | new (arguments : List String) (domain : Option DomainId)
  | newFromEnvironment (arguments : List String)
  | use (request : ContextRequest)
  | drop

inductive ClockRequest where
  | rawNow
  | rawSet (value : Nanos)
  | isOverrideEnabled
  | switchOverride (enabled : Bool)
  | now
  | set (time : TimeSpec)
  | type
  | handle
  | roundTrip

inductive ClockStep where
  | create (typeName : String)
  | new (typeName : String)
  | use (request : ClockRequest)
  | dispose
  | drop

inductive TimerRequest where
  | isReady
  | isCanceled
  | reset
  | cancel
  | untilNextCall
  | sinceLastCall
  | period
  | exchangePeriod (period : Nanos)
  | setPeriod (period : Nanos)
  | call

inductive TimerStep where
  | create (clock context : Slot) (period : Nanos)
  /-- An owned timer, with a function that may fail or without a function. -/
  | new (clock context : Slot) (period : Nanos) (function : Option Bool)
  | use (request : TimerRequest)
  | hasCallback
  | handle
  | dispose
  | drop

inductive SourceRequest where
  | isActive
  | setActive (active : Bool)
  | clockCount
  | update (time : TimeSpec)
  | last
  | attach (clock : Slot)
  | detach (clock : Slot)

inductive SourceStep where
  | new (active : Bool)
  | newFromEnvironment
  | use (request : SourceRequest)
  | drop

inductive Step where
  | operation (operation : Operation)
  | context (slot : Slot) (step : ContextStep)
  | clock (slot : Slot) (step : ClockStep)
  | timer (slot : Slot) (step : TimerStep)
  | source (slot : Slot) (step : SourceStep)
  | startLogging

/-- How a step ended: with a value, with an error, or because a timer's handle was empty. -/
inductive Outcome where
  | value (value : Value)
  | error (error : Error)
  | misuse
  deriving DecidableEq

inductive StepAnswer where
  | done
  | reply (reply : Reply)
  | outcome (outcome : Outcome)
  /-- An outcome, and whether the timer's function is kept. -/
  | kept (outcome : Outcome) (function : Bool)
  /-- An outcome, and the times that were handed to the timer's function. -/
  | fired (outcome : Outcome) (elapsed : List Nanos)
  /-- Whether the function of a dropped timer is kept. -/
  | dropped (function : Bool)
  | handle (handle : Handle)
  | roundTrip (handle : Handle)
  | refused (reason : Refusal)

end RosClient
