import Mathlib.Data.List.Forall2
import RosClient.Proofs.Operation.Confined
import RosClient.Proofs.Run.Given
import RosClient.Proofs.Timer.Grid

namespace RosClient

/-- Two replies to one operation that tell the same, unless it asks for the diagnostic; neither has
run a callback. -/
structure Reply.TellSame (first second : Reply) : Prop where
  operation : first.operation = second.operation
  answer : first.operation.asksDiagnostic = false → first.answer = second.answer
  alone : first.inner = [] ∧ second.inner = []

/-- The steps that are not on the timers of other slots. -/
def withoutOthers (slot : Slot) (steps : List GivenStep) : List GivenStep :=
  steps.filter fun step => !step.operation.isOnOther slot

/-- The replies to operations that are not on the timers of other slots. -/
def repliesWithoutOthers (slot : Slot) (replies : List Reply) : List Reply :=
  replies.filter fun reply => !reply.operation.isOnOther slot

theorem State.HasIdleCallbacks.runGiven_cons {state : State} (idle : state.HasIdleCallbacks)
    (depth : Nat) (step : GivenStep) (rest : List GivenStep) :
    let effect := step.operation.perform (state.given step.real)
    runGiven depth (step :: rest) state =
      (⟨step.operation, effect.answer, [], effect.state.pending⟩ ::
        (runGiven depth rest effect.state).1, (runGiven depth rest effect.state).2) := by
  have still : (state.given step.real).HasIdleCallbacks := idle
  exact runGiven_cons_of_no_body depth (still.body step.operation) rest

theorem State.AgreeOn.trans {slot : Slot} {first second third : State}
    (agree : first.AgreeOn slot second) (further : second.AgreeOn slot third) :
    first.AgreeOn slot third :=
  ⟨agree.objects.trans further.objects, agree.environment.trans further.environment⟩

theorem State.AgreeOn.given {slot : Slot} {first second : State}
    (agree : first.AgreeOn slot second) (real : RealTime) :
    (first.given real).AgreeOn slot (second.given real) :=
  ⟨agree.objects, agree.environment⟩

/-- Of two runs from states that agree, one with all steps and one without those on the timers of
other slots, the replies tell the same, and the states agree in the end. -/
theorem runGiven_withoutOthers {slot : Slot} (depth : Nat) (steps : List GivenStep)
    (isIdle : ∀ step ∈ steps, step.operation.IsIdle) {first second : State}
    (agree : first.AgreeOn slot second) (idle : first.HasIdleCallbacks)
    (idleToo : second.HasIdleCallbacks) :
    List.Forall₂ Reply.TellSame (repliesWithoutOthers slot (runGiven depth steps first).1)
        (runGiven depth (withoutOthers slot steps) second).1 ∧
      (runGiven depth steps first).2.AgreeOn slot
        (runGiven depth (withoutOthers slot steps) second).2 := by
  induction steps generalizing first second with
  | nil => exact ⟨.nil, agree⟩
  | cons step rest ih =>
    have here := isIdle step List.mem_cons_self
    have behind (later : GivenStep) (member : later ∈ rest) :=
      isIdle later (List.mem_cons_of_mem _ member)
    have start : (first.given step.real).HasIdleCallbacks := idle
    have startToo : (second.given step.real).HasIdleCallbacks := idleToo
    unfold withoutOthers repliesWithoutOthers at ih ⊢
    rw [idle.runGiven_cons]
    -- A step on another timer moves the first run only, and in nothing on which the two agree.
    cases other : step.operation.isOnOther slot with
    | true =>
      have agreed := step.operation.perform_other other (first.given step.real)
      have unmoved : (first.given step.real).AgreeOn slot second :=
        ⟨agree.objects, agree.environment⟩
      simp only [List.filter_cons, other, Bool.not_true, Bool.false_eq_true, ↓reduceIte]
      exact ih behind (agreed.trans unmoved) (start.perform here) idleToo
    | false =>
      obtain ⟨answered, agreed⟩ :=
        step.operation.perform_agrees other (agree.given step.real) rfl
      obtain ⟨told, ended⟩ := ih behind agreed (start.perform here) (startToo.perform here)
      simp only [List.filter_cons, other, Bool.not_false, ↓reduceIte]
      rw [idleToo.runGiven_cons]
      exact ⟨.cons ⟨rfl, answered, rfl, rfl⟩ told, ended⟩

/-- In a session whose callbacks have nothing to run, each operation can be given the readings that
it gets. With these, all operations on the timers of other slots can be left out: every other one
answers the same, but for questions about the diagnostic, and in the end the options, contexts and
clocks, the timer of the slot and the environment are the same. For an operation on a timer changes
nothing but timers, and any other operation changes no timer. -/
theorem other_timers_do_not_interfere {state : State} (idle : state.HasIdleCallbacks) (slot : Slot)
    (depth : Nat) :
    (∀ operations : List Operation, (∀ operation ∈ operations, operation.IsIdle) →
      (runEach (run depth) operations state).1 =
        (runGiven depth ((state.moments operations).map Moment.givenStep) state).1) ∧
    (∀ steps : List GivenStep, (∀ step ∈ steps, step.operation.IsIdle) →
      List.Forall₂ Reply.TellSame (repliesWithoutOthers slot (runGiven depth steps state).1)
          (runGiven depth (withoutOthers slot steps) state).1 ∧
        (runGiven depth steps state).2.AgreeOn slot
          (runGiven depth (withoutOthers slot steps) state).2) ∧
    ∀ (operation : Operation) (before : State),
      (operation.isOnTimer = true →
        { (operation.perform before).state.objects with timers := before.objects.timers } =
            before.objects ∧
          (operation.perform before).state.environment = before.environment) ∧
      (operation.isOnTimer = false →
        (operation.perform before).state.objects.timers = before.objects.timers) := by
  refine ⟨?_, ?_, ?_⟩
  · intro operations isIdle
    exact runEach_eq_runGiven idle depth operations isIdle fun _ => rfl
  · intro steps isIdle
    exact runGiven_withoutOthers depth steps isIdle ⟨rfl, rfl⟩ idle idle
  · intro operation before
    exact ⟨fun onTimer => ⟨operation.objects_perform_onTimer onTimer before,
        operation.environment_perform_onTimer onTimer before⟩, operation.timers_perform before⟩

/-- A look at clocks that read the same. -/
def realAt (reading : Int) : RealTime :=
  ⟨.ok (.clamp reading), .ok (.clamp reading)⟩

/-- Two timers on one clock and in one context, of which each is called and one is then exchanged,
reset and released, while the clock leaves its override and the context is shut down. -/
def sharedSteps : List GivenStep :=
  [⟨realAt 0, .initTimer (some 1) (some 2) (some 3) (.clamp 10) (some 7) fun _ => []⟩,
    ⟨realAt 1, .initTimer (some 5) (some 2) (some 3) (.clamp 20) (some 8) fun _ => []⟩,
    ⟨realAt 2, .clock (some 2) (.setOverride (.clamp 35))⟩,
    ⟨realAt 3, .timer (some 5) .call⟩,
    ⟨realAt 4, .timer (some 5) (.exchangePeriod (.clamp 3) true)⟩,
    ⟨realAt 5, .timer (some 1) .call⟩,
    ⟨realAt 6, .clock (some 2) .disableOverride⟩,
    ⟨realAt 60, .timer (some 5) .reset⟩,
    ⟨realAt 50, .timer (some 1) (.untilNextCall true)⟩,
    ⟨realAt 70, .context (some 3) .shutdown⟩,
    ⟨realAt 71, .timer (some 5) .fini⟩,
    ⟨realAt 52, .timer (some 1) .call⟩]

/-- Without the steps on the timer of slot 5, that of slot 1 fires twice and in the same way. -/
theorem other_timers_do_not_interfere_shared :
    stateBeforeTimer.HasIdleCallbacks ∧
      List.Forall₂ Reply.TellSame
        (repliesWithoutOthers 1 (runGiven 3 sharedSteps stateBeforeTimer).1)
        (runGiven 3 (withoutOthers 1 sharedSteps) stateBeforeTimer).1 ∧
      (repliesWithoutOthers 1 (runGiven 3 sharedSteps stateBeforeTimer).1).map Reply.answer =
        [.status .ok none, .status .ok none, .called .ok (some (7, .clamp 35)), .status .ok none,
          .status .ok (some (.nanos (.clamp (-10)))), .status .ok none,
          .called .ok (some (7, .clamp 17))] := by
  have idle : stateBeforeTimer.HasIdleCallbacks := fun _ _ _ present => nomatch present
  have isIdle : ∀ step ∈ sharedSteps, step.operation.IsIdle := by
    simp [sharedSteps, Operation.IsIdle]
  have apart := (other_timers_do_not_interfere idle 1 3).2.1 sharedSteps isIdle
  exact ⟨idle, apart.1, by rfl⟩

end RosClient
