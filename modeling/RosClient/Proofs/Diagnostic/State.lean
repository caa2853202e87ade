import RosClient.Proofs.Diagnostic.Fault
import RosClient.Proofs.Handle.Action

namespace RosClient

/-- Whether a record tells of a diagnostic: that one was left, or that one was overwritten. -/
def LogRecord.isDiagnostic : LogRecord → Bool
  | diagnostic _ => true
  | overwritten _ => true
  | _ => false

/-- The call that is made for a task, the kind of error that its failure makes, and the words in
which that error begins. -/
inductive Task.Makes : Task → FailureKind → String → {α : Type} → Call α → Prop where
  | initOptions (options : Option Place) :
      Makes .initOptions .init "Failed to init context options" (Call.initOptions options)
  | setDomain (options : Option Place) (domain : DomainId) :
      Makes .setDomain .init "Failed to set domain id" (Call.setDomain options domain)
  | initContext (count : Int) (vector : Option (List (Option (List UInt8))))
      (options context : Option Place) :
      Makes .initContext .init "Failed to init context"
        (Call.initContext count vector options context)
  | finiOptions (options : Option Place) :
      Makes .finiOptions .init "Failed to fini context options" (Call.finiOptions options)
  | shutdownContext (context : Option Place) :
      Makes .shutdownContext .runtime "Failed to shutdown context" (Call.shutdownContext context)
  | finiContext (context : Option Place) :
      Makes .finiContext .runtime "Failed to fini context" (Call.finiContext context)
  | contextDomain (context : Option Place) :
      Makes .contextDomain .runtime "Failed to get domain id" (Call.contextDomain context true)
  | countUnparsed (context : Option Place) :
      Makes .countUnparsed .runtime "Failed to count unparsed arguments"
        (Call.unparsedCount context true)
  | unparsedArgument (context : Option Place) (index : Nat) :
      Makes .unparsedArgument .runtime "Failed to get unparsed argument"
        (Call.unparsedArgument context index)
  | initClock (type : ClockType) (clock : Option Place) :
      Makes .initClock .init "Failed to init clock" (Call.initClock type clock)
  | clockNow (clock : Option Place) :
      Makes .clockNow .runtime "Failed to get current time" (Call.clockNow clock true)
  | queryOverride (clock : Option Place) :
      Makes .queryOverride .runtime "Failed to get ros_time_override_enabled"
        (Call.isOverrideEnabled clock true)
  | switchOverride (clock : Option Place) (enabled : Bool) :
      Makes .switchOverride .runtime "Failed to set ros_time_override_enabled"
        (if enabled then Call.enableOverride clock else Call.disableOverride clock)
  | setOverride (clock : Option Place) (value : Nanos) :
      Makes .setOverride .runtime "Failed to set time override" (Call.setOverride clock value)
  | finiClock (clock : Option Place) :
      Makes .finiClock .runtime "Failed to fini clock" (Call.finiClock clock)
  | initTimer (timer clock context : Option Place) (period : Nanos)
      (callback : Option Callback) :
      Makes .initTimer .init "Failed to init timer"
        (Call.initTimer timer clock context period callback)
  | timerIsReady (timer : Option Place) :
      Makes .timerIsReady .state "Failed to check timer ready" (Call.timerIsReady timer true)
  | timerIsCanceled (timer : Option Place) :
      Makes .timerIsCanceled .state "Failed to check timer canceled"
        (Call.timerIsCanceled timer true)
  | resetTimer (timer : Option Place) :
      Makes .resetTimer .state "Failed to reset timer" (Call.resetTimer timer)
  | cancelTimer (timer : Option Place) :
      Makes .cancelTimer .state "Failed to cancel timer" (Call.cancelTimer timer)
  | untilNextCall (timer : Option Place) :
      Makes .untilNextCall .state "Failed to get time until next timer call"
        (Call.timeUntilNextCall timer true)
  | sinceLastCall (timer : Option Place) :
      Makes .sinceLastCall .state "Failed to get time since last timer call"
        (Call.timeSinceLastCall timer true)
  | timerPeriod (timer : Option Place) :
      Makes .timerPeriod .state "Failed to get timer period" (Call.timerPeriod timer true)
  | exchangePeriod (timer : Option Place) (period : Nanos) :
      Makes .exchangePeriod .state "Failed to exchange timer period"
        (Call.exchangePeriod timer period true)
  | callTimer (timer : Option Place) :
      Makes .callTimer .state "Failed to call timer" (Call.callTimer timer)
  | finiTimer (timer : Option Place) :
      Makes .finiTimer .state "Failed to fini timer" (Call.finiTimer timer)

namespace State

/-- Two states that differ in nothing but the pending diagnostic and the log. -/
structure Alike (first second : State) : Prop where
  objects : first.objects = second.objects
  environment : first.environment = second.environment
  readings : first.readings = second.readings
  calls : first.calls = second.calls

/-- A step in which no diagnostic was left, taken or overwritten. -/
structure Untroubled (before after : State) : Prop where
  pending : after.pending = before.pending
  log : ∃ records, after.log = before.log ++ records ∧
    ∀ record ∈ records, record.isDiagnostic = false

/-- A step in which a call failed that was made for one of the tasks. Nothing happened to
diagnostics before it was made; it left its own, which overwrote the one that was pending before the
step, if any; and at once that was taken into the message of an error. Clean-ups behind it overwrite
nothing, and none is pending in the end. -/
structure Surfaced (tasks : List Task) (before : State) (kind : FailureKind) (status : Status)
    (message : String) (after : State) : Prop where
  cleared : after.pending = none
  cause : ∃ task ∈ tasks, ∃ (α : Type) (call : Call α) (words : String) (fault : Fault)
    (middle : State), task.Makes kind words call ∧ before.Untroubled middle ∧
      call middle = .error status (middle.raise fault) ∧
      message = words ++ ": " ++ fault.diagnostic ∧ fault.diagnostic ≠ "unknown error" ∧
      ∃ later, after.log = (middle.raise fault).log ++ .failure message :: later ∧
        ∀ text, .overwritten text ∉ later

/-- How a step may end: without trouble, or with the error of a call of its own. -/
def Ends (tasks : List Task) (before : State) (error? : Option Error) (after : State) : Prop :=
  match error? with
  | some (.failed kind status message) => Surfaced tasks before kind status message after
  | _ => Untroubled before after

theorem Untroubled.refl (state : State) : state.Untroubled state :=
  ⟨rfl, [], (List.append_nil _).symm, fun _ member => nomatch member⟩

theorem Untroubled.trans {before middle after : State} (first : before.Untroubled middle)
    (second : middle.Untroubled after) : before.Untroubled after := by
  obtain ⟨earlier, reported, plain⟩ := first.log
  obtain ⟨later, reportedLater, plainLater⟩ := second.log
  refine ⟨second.pending.trans first.pending, earlier ++ later, ?_, ?_⟩
  · rw [reportedLater, reported, List.append_assoc]
  · intro record member
    rcases List.mem_append.mp member with inFirst | inSecond
    · exact plain record inFirst
    · exact plainLater record inSecond

theorem Untroubled.write {state : State} {records : List LogRecord}
    (plain : ∀ record ∈ records, record.isDiagnostic = false) :
    state.Untroubled (state.write records) :=
  ⟨rfl, records, rfl, plain⟩

theorem not_overwritten_of_plain {records : List LogRecord}
    (plain : ∀ record ∈ records, record.isDiagnostic = false) (text : String) :
    .overwritten text ∉ records := by
  intro member
  have absurd := plain _ member
  cases absurd

theorem Untroubled.surfaced {tasks : List Task} {before middle after : State} {kind : FailureKind}
    {status : Status} {message : String} (first : before.Untroubled middle)
    (second : Surfaced tasks middle kind status message after) :
    Surfaced tasks before kind status message after := by
  obtain ⟨task, member, α, call, words, fault, reached, made, calm, cause⟩ := second.cause
  exact ⟨second.cleared, task, member, α, call, words, fault, reached, made, first.trans calm,
    cause⟩

theorem Surfaced.then {tasks : List Task} {before middle after : State} {kind : FailureKind}
    {status : Status} {message : String}
    (first : Surfaced tasks before kind status message middle)
    (cleared : after.pending = none)
    (log : ∃ records, after.log = middle.log ++ records ∧ ∀ text, .overwritten text ∉ records) :
    Surfaced tasks before kind status message after := by
  obtain ⟨task, member, α, call, words, fault, reached, made, calm, failed, said, known, later,
    reported, quiet⟩ := first.cause
  obtain ⟨records, reportedLater, quietLater⟩ := log
  refine ⟨cleared, task, member, α, call, words, fault, reached, made, calm, failed, said, known,
    later ++ records, ?_, ?_⟩
  · rw [reportedLater, reported, List.append_assoc, List.cons_append]
  · intro text found
    rcases List.mem_append.mp found with inFirst | inSecond
    · exact quiet text inFirst
    · exact quietLater text inSecond

theorem Untroubled.ends {tasks : List Task} {before middle after : State} {error? : Option Error}
    (first : before.Untroubled middle) (second : Ends tasks middle error? after) :
    Ends tasks before error? after := by
  unfold Ends at second ⊢
  split at second
  · exact first.surfaced second
  · exact first.trans second

theorem Ends.mono {tasks more : List Task} {before after : State} {error? : Option Error}
    (ended : Ends tasks before error? after) (within : ∀ task ∈ tasks, task ∈ more) :
    Ends more before error? after := by
  unfold Ends at ended ⊢
  split at ended
  · obtain ⟨task, member, cause⟩ := ended.cause
    exact ⟨ended.cleared, task, within task member, cause⟩
  · exact ended

theorem pending_of_mem_overwritten {state : State} {text : String}
    (member : .overwritten text ∈ state.overwritten) : state.pending = some text := by
  unfold overwritten at member
  split at member
  · next previous present =>
    cases List.mem_singleton.mp member
    exact present
  · cases member

theorem overwritten_mem_afterFailure {state : State} {fault : Fault} {report : LogRecord}
    (plain : report.isDiagnostic = false) {text : String}
    (member : .overwritten text ∈
      LogRecord.diagnostic fault.diagnostic :: (state.overwritten ++ [report])) :
    state.pending = some text := by
  rcases List.mem_cons.mp member with here | behind
  · cases here
  · rcases List.mem_append.mp behind with inside | last
    · exact pending_of_mem_overwritten inside
    · cases List.mem_singleton.mp last
      cases plain

theorem Alike.write {first second : State} (alike : first.Alike second)
    (records more : List LogRecord) : (first.write records).Alike (second.write more) :=
  ⟨alike.objects, alike.environment, alike.readings, alike.calls⟩

theorem Alike.afterFailure {first second : State} (alike : first.Alike second) (fault : Fault)
    (report : LogRecord) :
    (first.afterFailure fault report).Alike (second.afterFailure fault report) :=
  ⟨alike.objects, alike.environment, alike.readings, congrArg (· + 1) alike.calls⟩

end State

end RosClient
