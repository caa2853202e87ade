import RosClient.Answer
import RosClient.Call.Timer

namespace RosClient

/-- The outcome of one operation: its answer, the state after it, and what is to run next. -/
structure Effect where
  answer : Answer
  state : State
  body : List Operation := []

namespace State

/-- The effect of a call whose answer is a status and perhaps an output. -/
def respond {α : Type} (state : State) (call : Call α) (output : α → Option Value) : Effect :=
  match state.perform call with
  | (.ok value, after) => ⟨.status .ok (output value), after, []⟩
  | (.error status, after) => ⟨.status status none, after, []⟩

def respondStatus (state : State) (call : Call Unit) : Effect :=
  state.respond call fun _ => none

def respondFlag (state : State) (call : Call Bool) : Effect :=
  state.respond call fun value => some (.flag value)

def respondNanos (state : State) (call : Call Nanos) : Effect :=
  state.respond call fun value => some (.nanos value)

/-- The effect of a look at the state. -/
def observe (state : State) (value : Value) : Effect :=
  ⟨.value value, state, []⟩

end State

/-- The operations that a callback runs. -/
def Callback.body (elapsed : Nanos) : Callback → List Operation
  | script _ body => body elapsed
  | function _ => []

/-- The caller's token of a callback. -/
def Callback.token? : Callback → Option Nat
  | script token _ => some token
  | function _ => none

namespace Firing

def body (firing : Firing) : List Operation :=
  (firing.callback.map (Callback.body firing.elapsed)).getD []

/-- The token and the elapsed time, if a callback with a token fired. -/
def record (firing : Firing) : Option (Nat × Nanos) :=
  (firing.callback.bind Callback.token?).map fun token => (token, firing.elapsed)

end Firing

def OptionsCall.perform (options : Option Place) (state : State) : OptionsCall → Effect
  | init => state.respondStatus (Call.initOptions options)
  | setDomain domain => state.respondStatus (Call.setDomain options domain)
  | getDomain output =>
    state.respond (Call.requestedDomain options output) fun domain => some (.count domain.toNat)
  | fini => state.respondStatus (Call.finiOptions options)

def ContextCall.perform (context : Option Place) (state : State) : ContextCall → Effect
  | shutdown => state.respondStatus (Call.shutdownContext context)
  | isValid => state.observe (.flag (state.objects.isContextValid context))
  | instanceId => state.observe (.count (state.objects.contextId context))
  | domainId output =>
    state.respond (Call.contextDomain context output) fun domain => some (.count domain.toNat)
  | unparsedCount output =>
    state.respond (Call.unparsedCount context output) fun count => some (.count count)
  | unparsed index =>
    match state.perform (Call.unparsedArgument context index) with
    | (.ok text, after) => ⟨.value (.text text), after, []⟩
    | (.error _, after) => ⟨.value .nothing, after, []⟩
  | fini => state.respondStatus (Call.finiContext context)

/-- Writes the type of a clock, whatever state the clock is in. -/
def State.retypeClock (state : State) (clock : Option Place) (type : ClockType) : State :=
  match clock with
  | none => state
  | some place =>
    let retyped := { state.objects.clocks place with type }
    { state with objects := state.objects.setClock place retyped }

/-- The public fields of the clock behind a pointer. -/
def State.clockFields (state : State) (clock : Option Place) : Answer :=
  let clock := (clock.map state.objects.clocks).getD .zero
  .fields clock.type clock.storage.isNone

def ClockCall.perform (clock : Option Place) (state : State) : ClockCall → Effect
  | init type => state.respondStatus (Call.initClock type clock)
  | isValid => state.observe (.flag (state.objects.isClockValid clock))
  | now output => state.respondNanos (Call.clockNow clock output)
  | enableOverride => state.respondStatus (Call.enableOverride clock)
  | disableOverride => state.respondStatus (Call.disableOverride clock)
  | isOverrideEnabled output => state.respondFlag (Call.isOverrideEnabled clock output)
  | setOverride value => state.respondStatus (Call.setOverride clock value)
  | fini => state.respondStatus (Call.finiClock clock)
  | setType type => ⟨.done, state.retypeClock clock type, []⟩
  | fields => ⟨state.clockFields clock, state, []⟩

def TimerCall.perform (timer : Option Place) (state : State) : TimerCall → Effect
  | call =>
    match state.perform (Call.callTimer timer) with
    | (.ok firing, after) => ⟨.called .ok firing.record, after, firing.body⟩
    | (.error status, after) => ⟨.called status none, after, []⟩
  | isReady output => state.respondFlag (Call.timerIsReady timer output)
  | isCanceled output => state.respondFlag (Call.timerIsCanceled timer output)
  | reset => state.respondStatus (Call.resetTimer timer)
  | cancel => state.respondStatus (Call.cancelTimer timer)
  | untilNextCall output => state.respondNanos (Call.timeUntilNextCall timer output)
  | sinceLastCall output => state.respondNanos (Call.timeSinceLastCall timer output)
  | period output => state.respondNanos (Call.timerPeriod timer output)
  | exchangePeriod next output => state.respondNanos (Call.exchangePeriod timer next output)
  | fini => state.respondStatus (Call.finiTimer timer)

/-- The effect of a failing call on a new thread: that thread has a diagnostic of its own. -/
def State.onOtherThread (state : State) : Effect :=
  match { state with pending := none }.perform (Call.shutdownContext none) with
  | (.ok _, after) =>
    ⟨.thread false .ok after.pending.isSome, { after with pending := state.pending }, []⟩
  | (.error status, after) =>
    ⟨.thread false status after.pending.isSome, { after with pending := state.pending }, []⟩

/-- A pointer to the object in a slot of the caller; without a slot, the null pointer. -/
def pointerTo (slot : Option Slot) : Option Place :=
  slot.map .caller

/-- Whether a count of items stays within the vector that is given. -/
def countFits (count : Int) (vector : Option (List (Option (List UInt8)))) : Bool :=
  vector.all fun items => count ≤ items.length

/-- Carries out an operation, apart from what its callback does. -/
def Operation.perform (state : State) : Operation → Effect
  | errorIsSet => state.observe (.flag state.pending.isSome)
  | errorText => state.observe (.text (state.pending.getD "error not set"))
  | resetError => ⟨.done, { state with pending := none }, []⟩
  | otherThread => state.onOtherThread
  | setVariable key content =>
    ⟨.done, { state with environment := state.environment.write key content }, []⟩
  | installLogger => ⟨.status .alreadyInit none, state, []⟩
  | options slot request => request.perform (pointerTo slot) state
  | initContext count vector given target =>
    if countFits count vector then
      state.respondStatus (Call.initContext count vector (pointerTo given) (pointerTo target))
    else ⟨.refused .countBeyondVector, state, []⟩
  | context slot request => request.perform (pointerTo slot) state
  | clock slot request => request.perform (pointerTo slot) state
  | initTimer target source owner period callback body =>
    state.respondStatus (Call.initTimer (pointerTo target) (pointerTo source) (pointerTo owner)
      period (callback.map (.script · body)))
  | timer slot request => request.perform (pointerTo slot) state
  | refuse reason => ⟨.refused reason, state, []⟩

/-- Runs operations one after the other. -/
def runEach (run : Operation → State → Reply × State) :
    List Operation → State → List Reply × State
  | [], state => ([], state)
  | operation :: rest, state =>
    let (reply, state) := run operation state
    let (replies, state) := runEach run rest state
    (reply :: replies, state)

/-- Carries out an operation and what its callback does, with callbacks up to the given depth; a
callback deeper than that fires and runs nothing. -/
def run : Nat → Operation → State → Reply × State
  | 0, operation, state =>
    let effect := operation.perform state
    (⟨operation, effect.answer, [], effect.state.pending⟩, effect.state)
  | depth + 1, operation, state =>
    let effect := operation.perform state
    let (inner, after) := runEach (run depth) effect.body effect.state
    (⟨operation, effect.answer, inner, after.pending⟩, after)

mutual

/-- The operations of a run, in the order in which they were carried out. -/
def Reply.trace : Reply → List Operation
  | ⟨operation, _, inner, _⟩ => operation :: Reply.traceEach inner

def Reply.traceEach : List Reply → List Operation
  | [] => []
  | reply :: rest => reply.trace ++ Reply.traceEach rest

end

/-- The state after operations, each carried out without what its callback does. -/
def State.after (state : State) (operations : List Operation) : State :=
  operations.foldl (fun state operation => (operation.perform state).state) state

theorem after_append (state : State) (first second : List Operation) :
    state.after (first ++ second) = (state.after first).after second :=
  List.foldl_append

theorem runEach_state (step : Operation → State → Reply × State)
    (traced : ∀ operation state,
      (step operation state).2 = state.after (step operation state).1.trace)
    (operations : List Operation) (state : State) :
    (runEach step operations state).2 =
      state.after (Reply.traceEach (runEach step operations state).1) := by
  induction operations generalizing state with
  | nil => rfl
  | cons operation rest ih =>
    simp only [runEach, Reply.traceEach]
    rw [after_append, ← traced, ← ih]

/-- A run writes nothing but what its operations write, one after the other. -/
theorem run_state (depth : Nat) (operation : Operation) (state : State) :
    (run depth operation state).2 = state.after (run depth operation state).1.trace := by
  induction depth generalizing operation state with
  | zero => simp [run, Reply.trace, Reply.traceEach, State.after]
  | succ depth ih =>
    simp only [run, Reply.trace]
    exact runEach_state (run depth) ih _ _

end RosClient
