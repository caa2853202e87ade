namespace RosClient

inductive Status where
  | ok
  | error
  | timeout
  | unsupported
  | badAlloc
  | invalidArgument
  | alreadyInit
  | notInit
  | timerInvalid
  | timerCanceled
  | invalidRosArgs
  | alreadyShutdown
  deriving DecidableEq

namespace Status

def all : List Status :=
  [ok, error, timeout, unsupported, badAlloc, invalidArgument, alreadyInit, notInit, timerInvalid,
    timerCanceled, invalidRosArgs, alreadyShutdown]

def name : Status → String
  | ok => "Ok"
  | error => "Error"
  | timeout => "Timeout"
  | unsupported => "Unsupported"
  | badAlloc => "BadAlloc"
  | invalidArgument => "InvalidArgument"
  | alreadyInit => "AlreadyInit"
  | notInit => "NotInit"
  | timerInvalid => "TimerInvalid"
  | timerCanceled => "TimerCanceled"
  | invalidRosArgs => "InvalidRosArgs"
  | alreadyShutdown => "AlreadyShutdown"

def code : Status → Nat
  | ok => 0
  | error => 1
  | timeout => 2
  | unsupported => 3
  | badAlloc => 10
  | invalidArgument => 11
  | alreadyInit => 100
  | notInit => 101
  | timerInvalid => 800
  | timerCanceled => 801
  | invalidRosArgs => 1001
  | alreadyShutdown => 1900

def isOk (status : Status) : Bool :=
  status = ok

def ofName? (name : String) : Option Status :=
  all.find? fun status => status.name = name

end Status

end RosClient
