import RosClient.Nanos

namespace RosClient

structure Schedule where
  period : Nanos
  lastCall : Nanos
  nextCall : Nanos
  canceled : Bool
  deriving DecidableEq

/-- The deadline after a call at `now`: one period on, or as many more as it takes to reach `now`.
Without a period it is `now` itself. -/
def nextDeadline (deadline period now : Nanos) : Nanos :=
  let next := deadline.add period
  if now.value ≤ next.value then next
  else if period.value = 0 then now
  else .clamp (next.value + (1 + (now.value - next.value - 1) / period.value) * period.value)

namespace Schedule

/-- A schedule armed at `now`. -/
def start (period now : Nanos) : Schedule where
  period := period
  lastCall := now
  nextCall := now.add period
  canceled := false

/-- Whether a call is due at `now`. -/
def isDue (schedule : Schedule) (now : Nanos) : Bool :=
  schedule.nextCall.value ≤ now.value

def untilNextCall (schedule : Schedule) (now : Nanos) : Nanos :=
  schedule.nextCall.sub now

def sinceLastCall (schedule : Schedule) (now : Nanos) : Nanos :=
  now.sub schedule.lastCall

/-- The schedule armed again at `now`, with the period it has. -/
def reset (schedule : Schedule) (now : Nanos) : Schedule :=
  start schedule.period now

def cancel (schedule : Schedule) : Schedule :=
  { schedule with canceled := true }

def withPeriod (schedule : Schedule) (period : Nanos) : Schedule :=
  { schedule with period := period }

end Schedule

end RosClient
