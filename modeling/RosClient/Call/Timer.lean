import RosClient.Call.Clock
import RosClient.Call.Context

namespace RosClient

namespace Call

/-- Initialises a timer, armed at the present reading of its clock. -/
def initTimer (timer clock context : Option Place) (period : Nanos) (callback : Option Callback) :
    Call Unit := do
  let place ← required "timer" timer .invalidArgument
  let clockPlace ← required "clock" clock .invalidArgument
  let _ ← required "context" context .invalidArgument
  if ((← get).objects.timers place).isSome then
    diagnose .timerInitialized
    throw .alreadyInit
  if period.value < 0 then
    diagnose (.negativePeriod period)
    throw .invalidArgument
  if !(← get).objects.isContextValid context then
    diagnose .contextUnusable
    throw .notInit
  let now ← readClock clockPlace
  store fun objects =>
    objects.setTimer place (some ⟨clockPlace, callback, .start period now⟩)

/-- The initialised timer behind a pointer, and its place. -/
def findTimer (pointer : Option Place) : Call (Place × Timer) := do
  let some place := pointer
    | diagnose (.nullArgument "timer")
      throw .invalidArgument
  let some timer := (← get).objects.timers place
    | diagnose .timerUninitialized
      throw .timerInvalid
  return (place, timer)

/-- Writes to the schedule of the timer at a place. -/
def storeSchedule (place : Place) (change : Schedule → Schedule) : Call Unit :=
  store fun objects => objects.setTimer place ((objects.timers place).map fun timer =>
    { timer with schedule := change timer.schedule })

/-- Uses up the period that has elapsed and hands on the firing. The callback runs behind this: it
is left to whoever made the call. -/
def callTimer (pointer : Option Place) : Call Firing := do
  let (place, timer) ← findTimer pointer
  if timer.schedule.canceled then
    diagnose .timerCanceled
    throw .timerCanceled
  let now ← readClock timer.clock
  if now.value < 0 then
    diagnose .negativeNow
    throw .error
  let deadline := timer.schedule.nextCall
  if now.value < deadline.value then
    diagnose (.timerNotReady (deadline.sub now))
    throw .error
  let previous := timer.schedule.lastCall
  storeSchedule place fun schedule => { schedule with lastCall := now }
  let period := timer.schedule.period
  storeSchedule place fun schedule =>
    { schedule with nextCall := nextDeadline deadline period now }
  return ⟨now.sub previous, timer.callback⟩

/-- Whether a call is due; never on a canceled timer, whose clock is not read. -/
def timerIsReady (pointer : Option Place) (output : Bool) : Call Bool := do
  requireOutput "is_ready" output
  let (_, timer) ← findTimer pointer
  if timer.schedule.canceled then
    return false
  let now ← readClock timer.clock
  return timer.schedule.isDue now

def timerIsCanceled (pointer : Option Place) (output : Bool) : Call Bool := do
  requireOutput "is_canceled" output
  let (_, timer) ← findTimer pointer
  return timer.schedule.canceled

/-- Arms the timer again at the present reading of its clock. -/
def resetTimer (pointer : Option Place) : Call Unit := do
  let (place, timer) ← findTimer pointer
  let now ← readClock timer.clock
  let period := timer.schedule.period
  storeSchedule place fun schedule => { schedule with lastCall := now }
  storeSchedule place fun schedule => { schedule with nextCall := now.add period }
  storeSchedule place fun schedule => { schedule with canceled := false }

def cancelTimer (pointer : Option Place) : Call Unit := do
  let (place, _) ← findTimer pointer
  storeSchedule place Schedule.cancel

def timeUntilNextCall (pointer : Option Place) (output : Bool) : Call Nanos := do
  requireOutput "time_until_next_call" output
  let (_, timer) ← findTimer pointer
  if timer.schedule.canceled then
    diagnose .timerCanceled
    throw .timerCanceled
  let now ← readClock timer.clock
  return timer.schedule.untilNextCall now

def timeSinceLastCall (pointer : Option Place) (output : Bool) : Call Nanos := do
  requireOutput "time_since_last_call" output
  let (_, timer) ← findTimer pointer
  let now ← readClock timer.clock
  return timer.schedule.sinceLastCall now

def timerPeriod (pointer : Option Place) (output : Bool) : Call Nanos := do
  requireOutput "period" output
  let (_, timer) ← findTimer pointer
  return timer.schedule.period

/-- Swaps the period and answers the old one. The deadline stays; the new period counts from the
next call or reset. -/
def exchangePeriod (pointer : Option Place) (period : Nanos) (output : Bool) : Call Nanos := do
  requireOutput "old_period" output
  let (place, timer) ← findTimer pointer
  if period.value < 0 then
    diagnose (.negativePeriod period)
    throw .invalidArgument
  storeSchedule place fun schedule => schedule.withPeriod period
  return timer.schedule.period

/-- Releases a timer; there is nothing to do without one. -/
def finiTimer (pointer : Option Place) : Call Unit := do
  let some place := pointer
    | return ()
  if ((← get).objects.timers place).isNone then
    return ()
  storeSchedule place Schedule.cancel
  store fun objects => objects.setTimer place none

end Call

end RosClient
