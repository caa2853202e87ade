import RosClient.Proofs.Verdict.Confined
import RosClient.Proofs.Operation.Objects

namespace RosClient

/-- Whether an operation is on the timer of a slot other than the given one. -/
def Operation.isOnOther (slot : Slot) : Operation → Bool
  | initTimer (some target) _ _ _ _ _ => target ≠ slot
  | timer (some target) _ => target ≠ slot
  | _ => false

/-- Whether an operation asks for the pending diagnostic of its thread. -/
def Operation.asksDiagnostic : Operation → Bool
  | errorIsSet | errorText => true
  | _ => false

/-- Two effects with one answer and with states that agree. -/
structure Effect.AgreeOn (slot : Slot) (first second : Effect) : Prop where
  answer : first.answer = second.answer
  state : first.state.AgreeOn slot second.state

variable {α : Type} {slot : Slot} {first second : State}

theorem State.AgreeOn.seenFrom (agree : first.AgreeOn slot second)
    (sameTime : first.realTime = second.realTime) :
    first.seenFrom slot = second.seenFrom slot := by
  simp only [State.seenFrom, agree.objects, agree.environment, sameTime]

namespace State

theorem AgreeOn.perform (agree : first.AgreeOn slot second)
    (sameTime : first.realTime = second.realTime) (call : Call α) {status : Fault → Status}
    {verdict : Verdict α} [Settles call status verdict] (confined : verdict.IsConfined slot) :
    (first.perform call).1 = (second.perform call).1 ∧
      (first.perform call).2.AgreeOn slot (second.perform call).2 := by
  have same : (verdict first).map (Commit.only slot) =
      (verdict second).map (Commit.only slot) := by
    rw [← confined, ← confined, agree.seenFrom sameTime]
  cases one : verdict first with
  | error fault =>
    cases two : verdict second with
    | error other =>
      rw [one, two] at same
      cases same
      rw [perform_of_error one, perform_of_error two]
      exact ⟨rfl, agree.objects, agree.environment⟩
    | ok commit =>
      rw [one, two] at same
      cases same
  | ok commit =>
    cases two : verdict second with
    | error other =>
      rw [one, two] at same
      cases same
    | ok other =>
      rw [one, two] at same
      obtain ⟨value, objects, _⟩ := Commit.mk.inj (Except.ok.inj same)
      rw [perform_of_ok one, perform_of_ok two]
      exact ⟨congrArg Except.ok value, objects, agree.environment⟩

theorem AgreeOn.effect (agree : first.AgreeOn slot second)
    (sameTime : first.realTime = second.realTime) (call : Call α) {status : Fault → Status}
    {verdict : Verdict α} [Settles call status verdict] (confined : verdict.IsConfined slot)
    (effect : State → Effect) (answer : Except Status α → Answer)
    (shape : ∀ state, (effect state).answer = answer (state.perform call).1 ∧
      (effect state).state = (state.perform call).2) :
    (effect first).AgreeOn slot (effect second) := by
  obtain ⟨same, left⟩ := agree.perform sameTime call confined
  constructor
  · rw [(shape first).1, (shape second).1, same]
  · rw [(shape first).2, (shape second).2]
    exact left

theorem AgreeOn.respond (agree : first.AgreeOn slot second)
    (sameTime : first.realTime = second.realTime) {call : Call α} {verdict : Verdict α}
    [Settles call Fault.status verdict] (confined : verdict.IsConfined slot)
    (output : α → Option Value) :
    (first.respond call output).AgreeOn slot (second.respond call output) := by
  refine agree.effect sameTime call confined (·.respond call output) (fun
    | .ok value => .status .ok (output value)
    | .error status => .status status none) fun state => ?_
  cases outcome : verdict state with
  | error fault =>
    rw [respond_of_error outcome, perform_of_error outcome]
    exact ⟨rfl, rfl⟩
  | ok commit =>
    rw [respond_of_ok outcome, perform_of_ok outcome]
    exact ⟨rfl, rfl⟩

theorem AgreeOn.callTimer (agree : first.AgreeOn slot second)
    (sameTime : first.realTime = second.realTime) {timer : Option Place}
    (within : Verdict.LeadsTo slot timer) :
    (TimerCall.call.perform timer first).AgreeOn slot (TimerCall.call.perform timer second) := by
  refine agree.effect sameTime (Call.callTimer timer) (Verdict.callTimer_confined within)
    (TimerCall.call.perform timer)
    (fun
      | .ok firing => .called .ok firing.record
      | .error status => .called status none) fun state => ?_
  cases outcome : Verdict.callTimer timer state with
  | error fault =>
    rw [callTimer_of_error outcome, perform_of_error outcome]
    exact ⟨rfl, rfl⟩
  | ok commit =>
    rw [callTimer_of_ok outcome, perform_of_ok outcome]
    exact ⟨rfl, rfl⟩

theorem AgreeOn.unparsed (agree : first.AgreeOn slot second)
    (sameTime : first.realTime = second.realTime) (context : Option Place) (index : Nat) :
    ((ContextCall.unparsed index).perform context first).AgreeOn slot
      ((ContextCall.unparsed index).perform context second) := by
  refine agree.effect sameTime (Call.unparsedArgument context index)
    (Verdict.unparsedArgument_confined context index) ((ContextCall.unparsed index).perform context)
    (fun
      | .ok text => .value (.text text)
      | .error _ => .value .nothing) fun state => ?_
  cases outcome : Verdict.unparsedArgument context index state with
  | error fault =>
    simp only [ContextCall.perform, perform_of_error outcome, and_self]
  | ok commit =>
    simp only [ContextCall.perform, perform_of_ok outcome, and_self]

end State

section

variable (agree : first.AgreeOn slot second) (sameTime : first.realTime = second.realTime)

include agree sameTime

theorem OptionsCall.perform_agrees (options : Option Place) (request : OptionsCall) :
    (request.perform options first).AgreeOn slot (request.perform options second) := by
  cases request with
  | init => exact agree.respond sameTime (Verdict.initOptions_confined _) _
  | setDomain => exact agree.respond sameTime (Verdict.setDomain_confined _ _) _
  | getDomain => exact agree.respond sameTime (Verdict.requestedDomain_confined _ _) _
  | fini => exact agree.respond sameTime (Verdict.finiOptions_confined _) _

theorem ContextCall.perform_agrees (context : Option Place) (request : ContextCall) :
    (request.perform context first).AgreeOn slot (request.perform context second) := by
  cases request with
  | shutdown => exact agree.respond sameTime (Verdict.shutdownContext_confined _) _
  | isValid =>
    have same := congrArg (·.isContextValid context) agree.objects
    exact ⟨congrArg (fun flag => Answer.value (.flag flag)) same, agree⟩
  | instanceId =>
    have same := congrArg (·.contextId context) agree.objects
    exact ⟨congrArg (fun count => Answer.value (.count count)) same, agree⟩
  | domainId => exact agree.respond sameTime (Verdict.contextDomain_confined _ _) _
  | unparsedCount => exact agree.respond sameTime (Verdict.unparsedCount_confined _ _) _
  | unparsed index => exact agree.unparsed sameTime context index
  | fini => exact agree.respond sameTime (Verdict.finiContext_confined _) _

theorem ClockCall.perform_agrees (clock : Option Place) (request : ClockCall) :
    (request.perform clock first).AgreeOn slot (request.perform clock second) := by
  cases request with
  | init => exact agree.respond sameTime (Verdict.initClock_confined _ _) _
  | isValid =>
    have same := congrArg (·.isClockValid clock) agree.objects
    exact ⟨congrArg (fun flag => Answer.value (.flag flag)) same, agree⟩
  | now => exact agree.respond sameTime (Verdict.clockNow_confined _ _) _
  | enableOverride | disableOverride | setOverride =>
    exact agree.respond sameTime (Verdict.changeOverride_confined _ _ _) _
  | isOverrideEnabled => exact agree.respond sameTime (Verdict.isOverrideEnabled_confined _ _) _
  | fini => exact agree.respond sameTime (Verdict.finiClock_confined _) _
  | setType type =>
    cases clock with
    | none => exact ⟨rfl, agree⟩
    | some place =>
      have same := congrArg (fun objects : Objects =>
        objects.setClock place { objects.clocks place with type }) agree.objects
      exact ⟨rfl, same, agree.environment⟩
  | fields =>
    have same := congrArg (fun objects : Objects =>
      ({ objects, readings := first.readings } : State).clockFields clock) agree.objects
    exact ⟨same, agree⟩

theorem TimerCall.perform_agrees {timer : Option Place} (within : Verdict.LeadsTo slot timer)
    (request : TimerCall) :
    (request.perform timer first).AgreeOn slot (request.perform timer second) := by
  cases request with
  | call => exact agree.callTimer sameTime within
  | isReady => exact agree.respond sameTime (Verdict.timerIsReady_confined within _) _
  | isCanceled => exact agree.respond sameTime (Verdict.timerIsCanceled_confined within _) _
  | reset => exact agree.respond sameTime (Verdict.resetTimer_confined within) _
  | cancel => exact agree.respond sameTime (Verdict.cancelTimer_confined within) _
  | untilNextCall => exact agree.respond sameTime (Verdict.timeUntilNextCall_confined within _) _
  | sinceLastCall => exact agree.respond sameTime (Verdict.timeSinceLastCall_confined within _) _
  | period => exact agree.respond sameTime (Verdict.timerPeriod_confined within _) _
  | exchangePeriod => exact agree.respond sameTime (Verdict.exchangePeriod_confined within _ _) _
  | fini => exact agree.respond sameTime (Verdict.finiTimer_confined within) _

end

theorem Operation.leadsTo_of_kept {target : Option Slot}
    (kept : ∀ found, target = some found → found = slot) :
    Verdict.LeadsTo slot (pointerTo target) := by
  intro place here
  obtain ⟨found, same, rfl⟩ := Option.map_eq_some_iff.mp here
  rw [kept found same]

/-- An operation that is not on the timer of another slot does the same in both states. -/
theorem Operation.perform_agrees (operation : Operation) (kept : operation.isOnOther slot = false)
    (agree : first.AgreeOn slot second) (sameTime : first.realTime = second.realTime) :
    (operation.asksDiagnostic = false →
      (operation.perform first).answer = (operation.perform second).answer) ∧
    (operation.perform first).state.AgreeOn slot (operation.perform second).state := by
  have both {one two : Effect} (same : one.AgreeOn slot two) :
      (operation.asksDiagnostic = false → one.answer = two.answer) ∧
        one.state.AgreeOn slot two.state :=
    ⟨fun _ => same.answer, same.state⟩
  cases operation with
  | errorIsSet | errorText => exact ⟨nofun, agree⟩
  | resetError | otherThread => exact ⟨fun _ => rfl, agree.objects, agree.environment⟩
  | setVariable key content =>
    exact ⟨fun _ => rfl, agree.objects, congrArg (·.write key content) agree.environment⟩
  | installLogger | refuse => exact ⟨fun _ => rfl, agree⟩
  | options target request => exact both (request.perform_agrees agree sameTime _)
  | initContext count vector given target =>
    simp only [Operation.perform]
    split
    · exact both (agree.respond sameTime (Verdict.initContext_confined _ _ _ _) _)
    · exact ⟨fun _ => rfl, agree⟩
  | context target request => exact both (request.perform_agrees agree sameTime _)
  | clock target request => exact both (request.perform_agrees agree sameTime _)
  | initTimer target source owner period callback body =>
    have within : Verdict.LeadsTo slot (pointerTo target) := leadsTo_of_kept fun found same => by
      subst same
      simpa [isOnOther] using kept
    exact both (agree.respond sameTime (Verdict.initTimer_confined within _ _ _ _) _)
  | timer target request =>
    have within : Verdict.LeadsTo slot (pointerTo target) := leadsTo_of_kept fun found same => by
      subst same
      simpa [isOnOther] using kept
    exact both (request.perform_agrees agree sameTime within)

/-- An operation on a timer leaves options, contexts, clocks and instance ids as they are. -/
theorem Operation.objects_perform_onTimer (operation : Operation)
    (onTimer : operation.isOnTimer = true) (state : State) :
    { (operation.perform state).state.objects with timers := state.objects.timers } =
      state.objects := by
  refine operation.perform_keeps state
    (fun objects : Objects => { objects with timers := state.objects.timers }) ?_
  cases operation with
  | initTimer | timer => exact fun _ _ _ _ => rfl
  | options | initContext | context | clock | errorIsSet | errorText | resetError | setVariable
  | refuse | otherThread | installLogger => cases onTimer

theorem State.environment_respond (state : State) (call : Call α) {verdict : Verdict α}
    [Settles call Fault.status verdict] (output : α → Option Value) :
    (state.respond call output).state.environment = state.environment := by
  cases outcome : verdict state with
  | error fault =>
    rw [State.respond_of_error outcome]
    rfl
  | ok commit =>
    rw [State.respond_of_ok outcome]
    rfl

theorem Operation.environment_perform_onTimer (operation : Operation)
    (onTimer : operation.isOnTimer = true) (state : State) :
    (operation.perform state).state.environment = state.environment := by
  cases operation with
  | initTimer => exact state.environment_respond _ _
  | timer target request =>
    cases request with
    | call =>
      cases outcome : Verdict.callTimer (pointerTo target) state with
      | error fault =>
        simp only [Operation.perform, State.callTimer_of_error outcome]
        rfl
      | ok commit =>
        simp only [Operation.perform, State.callTimer_of_ok outcome]
        rfl
    | isReady | isCanceled | reset | cancel | untilNextCall | sinceLastCall | period
    | exchangePeriod | fini => exact state.environment_respond _ _
  | options | initContext | context | clock | errorIsSet | errorText | resetError | setVariable
  | refuse | otherThread | installLogger => cases onTimer

/-- An operation on the timer of another slot leaves a state that agrees with the one before. -/
theorem Operation.perform_other (operation : Operation)
    (other : operation.isOnOther slot = true) (state : State) :
    (operation.perform state).state.AgreeOn slot state := by
  have apart {target : Slot} (ne : target ≠ slot) :
      Objects.Hides (Objects.only slot) Objects.setTimer (pointerTo (some target)) := by
    intro objects place timer here
    cases here
    exact Objects.only_setTimer_of_ne (fun same => ne (Place.caller.inj same)) timer
  cases operation with
  | initTimer target source owner period callback body =>
    cases target with
    | none => cases other
    | some target =>
      exact ⟨Operation.perform_keeps _ state (Objects.only slot) (apart (of_decide_eq_true other)),
        Operation.environment_perform_onTimer _ rfl state⟩
  | timer target request =>
    cases target with
    | none => cases other
    | some target =>
      exact ⟨Operation.perform_keeps _ state (Objects.only slot) (apart (of_decide_eq_true other)),
        Operation.environment_perform_onTimer _ rfl state⟩
  | options | initContext | context | clock | errorIsSet | errorText | resetError | setVariable
  | refuse | otherThread | installLogger => cases other

end RosClient
