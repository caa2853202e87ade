import RosClient.Proofs.Operation.Effect

namespace RosClient

/-- What a call sees of a state. -/
def State.seen (state : State) : State where
  objects := state.objects
  environment := state.environment
  readings := fun _ => state.realTime

/-- Two states that no operation can tell apart, now or later. -/
structure State.GoesOnAs (first second : State) : Prop where
  objects : first.objects = second.objects
  pending : first.pending = second.pending
  environment : first.environment = second.environment
  readings : ∀ later,
    first.readings (first.calls + later) = second.readings (second.calls + later)

/-- Two effects that nobody can tell apart. -/
structure Effect.GoesOnAs (first second : Effect) : Prop where
  answer : first.answer = second.answer
  state : first.state.GoesOnAs second.state
  body : first.body = second.body

namespace State.GoesOnAs

variable {first second : State} (same : first.GoesOnAs second)

include same

theorem seen_eq : first.seen = second.seen := by
  have now : first.realTime = second.realTime := same.readings 0
  simp only [seen, same.objects, same.environment, now]

theorem verdict_eq {α : Type} {verdict : Verdict α}
    (sees : ∀ state, verdict state.seen = verdict state) : verdict first = verdict second := by
  rw [← sees first, ← sees second, same.seen_eq]

theorem readings_next (later : Nat) :
    first.readings (first.calls + 1 + later) = second.readings (second.calls + 1 + later) := by
  rw [Nat.add_assoc, Nat.add_assoc]
  exact same.readings (1 + later)

theorem committed {α : Type} (commit : Commit α) :
    (first.committed commit).GoesOnAs (second.committed commit) :=
  ⟨rfl, same.pending, same.environment, same.readings_next⟩

theorem refused (fault : Fault) : (first.refused fault).GoesOnAs (second.refused fault) :=
  ⟨same.objects, rfl, same.environment, same.readings_next⟩

theorem respond {α : Type} {call : Call α} {verdict : Verdict α}
    [Settles call Fault.status verdict] (sees : ∀ state, verdict state.seen = verdict state)
    (output : α → Option Value) :
    (first.respond call output).GoesOnAs (second.respond call output) := by
  have alike := same.verdict_eq sees
  cases outcome : verdict second with
  | error fault =>
    rw [respond_of_error outcome, respond_of_error (alike.trans outcome)]
    exact ⟨rfl, same.refused fault, rfl⟩
  | ok commit =>
    rw [respond_of_ok outcome, respond_of_ok (alike.trans outcome)]
    exact ⟨rfl, same.committed commit, rfl⟩

theorem observe {α : Type} {part : State → α} (alike : part first = part second)
    (value : α → Value) :
    (first.observe (value (part first))).GoesOnAs (second.observe (value (part second))) :=
  ⟨congrArg (Answer.value <| value ·) alike, same, rfl⟩

theorem callTimer (timer : Option Place) :
    (TimerCall.call.perform timer first).GoesOnAs (TimerCall.call.perform timer second) := by
  have alike : Verdict.callTimer timer first = Verdict.callTimer timer second :=
    same.verdict_eq fun _ => rfl
  cases outcome : Verdict.callTimer timer second with
  | error fault =>
    rw [callTimer_of_error outcome, callTimer_of_error (alike.trans outcome)]
    exact ⟨rfl, same.refused fault, rfl⟩
  | ok commit =>
    rw [callTimer_of_ok outcome, callTimer_of_ok (alike.trans outcome)]
    exact ⟨rfl, same.committed commit, rfl⟩

theorem unparsed (context : Option Place) (index : Nat) :
    ((ContextCall.unparsed index).perform context first).GoesOnAs
      ((ContextCall.unparsed index).perform context second) := by
  have alike : Verdict.unparsedArgument context index first =
      Verdict.unparsedArgument context index second := same.verdict_eq fun _ => rfl
  cases outcome : Verdict.unparsedArgument context index second with
  | error fault =>
    simp only [ContextCall.perform, perform_of_error outcome,
      perform_of_error (alike.trans outcome)]
    exact ⟨rfl, same.refused fault, rfl⟩
  | ok commit =>
    simp only [ContextCall.perform, perform_of_ok outcome, perform_of_ok (alike.trans outcome)]
    exact ⟨rfl, same.committed commit, rfl⟩

theorem retypeClock (clock : Option Place) (type : ClockType) :
    (first.retypeClock clock type).GoesOnAs (second.retypeClock clock type) := by
  cases clock with
  | none => exact same
  | some place =>
    refine ⟨?_, same.pending, same.environment, same.readings⟩
    simp only [State.retypeClock, same.objects]

theorem perform (operation : Operation) :
    (operation.perform first).GoesOnAs (operation.perform second) := by
  cases operation with
  | errorIsSet => exact same.observe same.pending (.flag ·.isSome)
  | errorText => exact same.observe same.pending (.text <| ·.getD "error not set")
  | resetError => exact ⟨rfl, ⟨same.objects, rfl, same.environment, same.readings⟩, rfl⟩
  | otherThread =>
    exact ⟨rfl, ⟨same.objects, same.pending, same.environment, same.readings_next⟩, rfl⟩
  | setVariable key content =>
    exact ⟨rfl, ⟨same.objects, same.pending, congrArg (·.write key content) same.environment,
      same.readings⟩, rfl⟩
  | installLogger | refuse => exact ⟨rfl, same, rfl⟩
  | options target request => cases request <;> exact same.respond (fun _ => rfl) _
  | initContext count vector given target =>
    simp only [Operation.perform]
    split
    · exact same.respond (fun _ => rfl) _
    · exact ⟨rfl, same, rfl⟩
  | context target request =>
    cases request with
    | isValid => exact same.observe same.objects (.flag <| ·.isContextValid (pointerTo target))
    | instanceId => exact same.observe same.objects (.count <| ·.contextId (pointerTo target))
    | unparsed index => exact same.unparsed _ index
    | shutdown | domainId | unparsedCount | fini => exact same.respond (fun _ => rfl) _
  | clock target request =>
    cases request with
    | isValid => exact same.observe same.objects (.flag <| ·.isClockValid (pointerTo target))
    | fields =>
      refine ⟨?_, same, rfl⟩
      simp only [Operation.perform, ClockCall.perform, State.clockFields, same.objects]
    | setType type => exact ⟨rfl, same.retypeClock _ type, rfl⟩
    | init | now | enableOverride | disableOverride | isOverrideEnabled | setOverride | fini =>
      exact same.respond (fun _ => rfl) _
  | initTimer => exact same.respond (fun _ => rfl) _
  | timer target request =>
    cases request with
    | call => exact same.callTimer _
    | isReady | isCanceled | reset | cancel | untilNextCall | sinceLastCall | period
    | exchangePeriod | fini => exact same.respond (fun _ => rfl) _

end State.GoesOnAs

theorem runEach_goesOn_of (step : Operation → State → Reply × State)
    (alike : ∀ operation first second, first.GoesOnAs second →
      (step operation first).1 = (step operation second).1 ∧
        (step operation first).2.GoesOnAs (step operation second).2)
    (operations : List Operation) {first second : State} (same : first.GoesOnAs second) :
    (runEach step operations first).1 = (runEach step operations second).1 ∧
      (runEach step operations first).2.GoesOnAs (runEach step operations second).2 := by
  induction operations generalizing first second with
  | nil => exact ⟨rfl, same⟩
  | cons operation rest ih =>
    obtain ⟨reply, after⟩ := alike operation first second same
    obtain ⟨replies, last⟩ := ih after
    simp only [runEach, reply, replies, true_and]
    exact last

theorem run_goesOn (depth : Nat) (operation : Operation) (first second : State)
    (same : first.GoesOnAs second) :
    (run depth operation first).1 = (run depth operation second).1 ∧
      (run depth operation first).2.GoesOnAs (run depth operation second).2 := by
  induction depth generalizing operation first second with
  | zero =>
    obtain ⟨answer, state, _⟩ := same.perform operation
    simp only [run, answer, state.pending, true_and]
    exact state
  | succ depth ih =>
    obtain ⟨answer, state, body⟩ := same.perform operation
    obtain ⟨inner, after⟩ := runEach_goesOn_of (run depth) ih (operation.perform second).body state
    simp only [run, answer, body, inner, after.pending, true_and]
    exact after

theorem State.GoesOnAs.replies_eq {first second : State} (same : first.GoesOnAs second)
    (depth : Nat) (operations : List Operation) :
    (runEach (run depth) operations first).1 = (runEach (run depth) operations second).1 :=
  (runEach_goesOn_of (run depth) (run_goesOn depth) operations same).1

end RosClient
