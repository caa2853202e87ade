import RosClient.Call.Timer
import RosClient.Handle.Basic

namespace RosClient

namespace TimerHandle

/-- A handle to a new timer on a clock; if the timer cannot be made, there is none. -/
def create (slot : Slot) (clock context : Handle) (period : Nanos) (callback : Option Callback) :
    Action Handle := do
  modify fun state => { state with objects := state.objects.setTimer (.handle slot) none }
  attempt .initTimer (Call.initTimer (some (.handle slot)) clock context period callback)
  return some (.handle slot)

def isReady (place : Place) : Action Bool :=
  attempt .timerIsReady (Call.timerIsReady place true)

def isCanceled (place : Place) : Action Bool :=
  attempt .timerIsCanceled (Call.timerIsCanceled place true)

def reset (place : Place) : Action Unit :=
  attempt .resetTimer (Call.resetTimer place)

def cancel (place : Place) : Action Unit :=
  attempt .cancelTimer (Call.cancelTimer place)

def untilNextCall (place : Place) : Action Nanos :=
  attempt .untilNextCall (Call.timeUntilNextCall place true)

def sinceLastCall (place : Place) : Action Nanos :=
  attempt .sinceLastCall (Call.timeSinceLastCall place true)

def period (place : Place) : Action Nanos :=
  attempt .timerPeriod (Call.timerPeriod place true)

/-- Swaps the period and answers the old one. -/
def exchangePeriod (place : Place) (period : Nanos) : Action Nanos :=
  attempt .exchangePeriod (Call.exchangePeriod place period true)

def setPeriod (place : Place) (period : Nanos) : Action Unit := do
  let _ ← exchangePeriod place period

/-- What is reported when a callback runs: a failure of its function. -/
def callbackRecords : Option Callback → List LogRecord
  | some (.function true) => [.callbackFailed]
  | _ => []

/-- Uses up the period that has elapsed and runs the callback, whose failure is only reported. The
times that were handed to a callback are answered. -/
def call (place : Place) : Action (List Nanos) := do
  let firing ← attempt .callTimer (Call.callTimer place)
  modify fun state => state.write (callbackRecords firing.callback)
  return if firing.callback.isSome then [firing.elapsed] else []

/-- Releases the timer and empties the handle. -/
def dispose (handle : Handle) : Action Handle := do
  if handle.isSome then attempt .finiTimer (Call.finiTimer handle)
  return none

/-- What the end of an owned timer does: disposes of it. -/
def release (handle : Handle) (state : State) : State :=
  state.release "timer dispose" (dispose handle)

end TimerHandle

end RosClient
