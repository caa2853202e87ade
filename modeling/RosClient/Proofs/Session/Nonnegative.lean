import RosClient.Proofs.Session.Timers
import RosClient.Proofs.Timer.Query

namespace RosClient

/-- Both looks at the operating system's clocks give a reading that is not negative. -/
structure RealTime.IsNonnegative (real : RealTime) : Prop where
  system : ∃ now, real.system = .ok now ∧ 0 ≤ now.value
  steady : ∃ now, real.steady = .ok now ∧ 0 ≤ now.value

def Override.IsNonnegative (override : Override) : Prop :=
  0 ≤ override.value.value

/-- Whether a step writes an override as a bare number of nanoseconds. -/
def Step.writesNanos : Step → Bool
  | clock _ (.use (.rawSet _)) => true
  | _ => false

/-- No override of a clock in a slot is negative. -/
def Session.HasNonnegativeOverrides (session : Session) : Prop :=
  ∀ slot clock override, session.clockIn slot = some clock →
    clock.storedOverride = some override → override.IsNonnegative

theorem start_hasNonnegativeOverrides (depth : Nat) (environment : Environment)
    (readings : Nat → RealTime) :
    (Session.start depth environment readings).HasNonnegativeOverrides :=
  fun _ _ _ => nofun

open Session

section

variable {session : Session} {slot : Slot} {override : Override}

theorem Override.IsNonnegative.withActive (nonnegative : override.IsNonnegative) (active : Bool) :
    (override.withActive active).IsNonnegative :=
  nonnegative

theorem Override.isNonnegative_withTime (override : Override) (time : Time) :
    (override.withValue time.nanoseconds).IsNonnegative :=
  time.nonnegative

theorem ClockRequest.overrideChange_nonnegative {request : ClockRequest}
    (typed : ∀ value, request ≠ .rawSet value) (held : HeldClock)
    (nonnegative : override.IsNonnegative) :
    (request.overrideChange held override).IsNonnegative := by
  cases request with
  | rawSet value => exact absurd rfl (typed value)
  | switchOverride active => exact nonnegative.withActive active
  | set time =>
    simp only [overrideChange]
    cases held.owned? with
    | none => exact nonnegative
    | some clock =>
      cases time.read with
      | ok time => exact override.isNonnegative_withTime time
      | error e => exact nonnegative
  | rawNow | isOverrideEnabled | now | type | handle | roundTrip => exact nonnegative

theorem SourceRequest.overrideChange_nonnegative (request : SourceRequest) (source : TimeSource)
    (slot : Slot) (nonnegative : override.IsNonnegative) :
    (request.overrideChange session source slot override).IsNonnegative := by
  cases request with
  | setActive active =>
    simp only [overrideChange]
    split
    · exact nonnegative.withActive active
    · exact nonnegative
  | update time =>
    simp only [overrideChange]
    cases time.read with
    | error e => exact nonnegative
    | ok time =>
      simp only
      split
      · exact override.isNonnegative_withTime time
      · exact nonnegative
  | attach clock =>
    simp only [overrideChange]
    split
    · exact source.last.nonnegative
    · exact nonnegative
  | isActive | clockCount | last | detach => exact nonnegative

theorem Step.overrideChange_nonnegative {step : Step} (typed : step.writesNanos = false)
    (slot : Slot) (nonnegative : override.IsNonnegative) :
    (step.overrideChange session slot override).IsNonnegative := by
  cases step with
  | clock target step =>
    cases step with
    | use request =>
      simp only [overrideChange]
      split
      · apply request.overrideChange_nonnegative _ _ nonnegative
        rintro value rfl
        cases typed
      · exact nonnegative
    | create | new | dispose | drop => exact nonnegative
  | source target step =>
    cases step with
    | use request =>
      simp only [overrideChange]
      cases session.sources.get? target with
      | some source => exact request.overrideChange_nonnegative source slot nonnegative
      | none => exact nonnegative
    | new | newFromEnvironment | drop => exact nonnegative
  | operation | context | timer | startLogging => exact nonnegative

theorem Clock.storedOverride_rewrite (change : Override → Override) (clock : Clock) :
    (clock.rewrite change).storedOverride = clock.storedOverride.map change := by
  obtain ⟨type, storage⟩ := clock
  cases storage with
  | none => rfl
  | some storage =>
    obtain ⟨override⟩ := storage
    cases override <;> rfl

theorem Clock.isNonnegative_new {type : ClockType}
    (stored : (Clock.new type).storedOverride = some override) : override.IsNonnegative := by
  by_cases ros : type = .rosTime
  · subst ros
    cases stored
    exact Int.le_refl 0
  · simp [Clock.new, Clock.storedOverride, ros] at stored

/-- A step that writes no bare number leaves no override negative. -/
theorem Step.perform_nonnegative (sound : session.HasSoundClocks)
    (nonnegative : session.HasNonnegativeOverrides) {step : Step}
    (typed : step.writesNanos = false) : (step.perform session).2.HasNonnegativeOverrides := by
  intro slot clock override there stored
  cases step.clockFate sound slot with
  | kept _ rewritten =>
    rw [rewritten] at there
    obtain ⟨before, present, rfl⟩ := Option.map_eq_some_iff.mp there
    rw [Clock.storedOverride_rewrite] at stored
    obtain ⟨found, storedBefore, rfl⟩ := Option.map_eq_some_iff.mp stored
    exact step.overrideChange_nonnegative typed slot
      (nonnegative slot before found present storedBefore)
  | released _ empty =>
    rw [Session.clockIn, empty] at there
    cases there
  | made type _ _ _ new =>
    cases new.symm.trans there
    exact Clock.isNonnegative_new stored

theorem Session.HasNonnegativeOverrides.after (sound : session.HasSoundClocks)
    (nonnegative : session.HasNonnegativeOverrides) {steps : List Step}
    (typed : ∀ step ∈ steps, step.writesNanos = false) :
    (session.after steps).HasNonnegativeOverrides := by
  induction steps generalizing session with
  | nil => exact nonnegative
  | cons step rest ih =>
    have next := step.perform_nonnegative sound nonnegative (typed step List.mem_cons_self)
    exact ih (step.perform_sound sound) next fun later member =>
      typed later (List.mem_cons_of_mem _ member)

theorem Clock.IsOf.read {clock : Clock} {type : ClockType} (made : clock.IsOf type)
    (other : type ≠ .uninitialized) {real : RealTime} (nonnegative : real.IsNonnegative)
    (overrides : ∀ override, clock.storedOverride = some override → override.IsNonnegative) :
    ∃ now, clock.read real = .ok now ∧ 0 ≤ now.value := by
  obtain ⟨system, systemRead, systemLeast⟩ := nonnegative.system
  obtain ⟨steady, steadyRead, steadyLeast⟩ := nonnegative.steady
  cases made with
  | ros override =>
    cases active : override.active with
    | true =>
      refine ⟨override.value, ?_, overrides override rfl⟩
      simp [Clock.read, Clock.isValid, Clock.ros, Clock.readRosTime, Clock.storedOverride, active]
    | false =>
      refine ⟨system, ?_, systemLeast⟩
      simp only [Clock.read, Clock.isValid, Clock.ros, Clock.readRosTime, Clock.storedOverride,
        Clock.readReal, systemRead, Option.isSome_some, ne_eq, reduceCtorEq, not_false_eq_true,
        decide_true, Bool.and_self, ↓reduceIte, Option.bind_some, active, Bool.false_eq_true]
      rfl
  | plain apart =>
    cases type with
    | uninitialized => exact absurd rfl other
    | rosTime => exact absurd rfl apart
    | systemTime => exact ⟨system, congrArg (Except.mapError Fault.readingFailed) systemRead,
        systemLeast⟩
    | steadyTime => exact ⟨steady, congrArg (Except.mapError Fault.readingFailed) steadyRead,
        steadyLeast⟩

theorem OwnedClock.now_of_read {clock : OwnedClock} {place : Place} {state : State} {now : Nanos}
    (here : clock.handle = some place) (read : state.readClock place = .ok now)
    (nonnegative : 0 ≤ now.value) :
    ∃ after, clock.now state = .ok ⟨now, clock.type, nonnegative⟩ after := by
  have accepted : Verdict.clockNow clock.handle true state = .ok (state.answer now) := by
    rw [here]
    simp only [Verdict.clockNow, Verdict.required, Verdict.requireOutput, ↓reduceIte, bind,
      Except.bind, read]
  have time : Time.ofNanos now clock.type = .ok ⟨now, clock.type, nonnegative⟩ :=
    dif_pos nonnegative
  refine ⟨state.committed (state.answer now), ?_⟩
  unfold OwnedClock.now ClockHandle.now
  rw [bind_of_ok (attempt_of_ok accepted)]
  change (MonadExcept.ofExcept (Time.ofNanos now clock.type) : Action Time) _ = _
  rw [time]
  rfl

theorem TimerHandle.isReady_of_read {place : Place} {state : State} {timer : Timer} {now : Nanos}
    (present : state.objects.timers place = some timer)
    (read : state.readClock timer.clock = .ok now) :
    ∃ after, isReady place state =
        .ok (!timer.schedule.canceled && timer.schedule.isDue now) after ∧
      after.objects = state.objects := by
  have found : state.Finds place timer (.ok now) := ⟨present, read⟩
  exact ⟨_, attempt_of_ok found.timerIsReady, rfl⟩

/-- Whether a call of the timer in a slot goes through. -/
def Session.canCall (session : Session) (slot : Slot) : Bool :=
  ((TimerStep.use .call).perform slot session).1.isOk

theorem canCall_iff {place : Place} {timer : Timer} {now : Nanos}
    (here : (session.heldTimer slot).handle = some place)
    (present : session.state.objects.timers place = some timer)
    (read : session.state.readClock timer.clock = .ok now) (nonnegative : 0 ≤ now.value) :
    session.canCall slot = true ↔
      timer.schedule.canceled = false ∧ timer.schedule.nextCall.value ≤ now.value := by
  have found : session.state.Finds place timer (.ok now) := ⟨present, read⟩
  have callable := found.callTimer_iff
  rw [and_iff_right nonnegative] at callable
  rw [← callable]
  unfold Session.canCall
  rw [TimerStep.perform_use, Session.timer_fst, here, Option.elim_some]
  have looked := session.state_timer slot
  cases outcome : Verdict.callTimer (some place) (session.timer slot).2.state with
  | ok commit =>
    obtain ⟨after, performed, _⟩ := perform_call_of_ok outcome
    rw [looked] at outcome
    rw [performed]
    exact ⟨fun _ => ⟨commit, outcome⟩, fun _ => rfl⟩
  | error fault =>
    obtain ⟨e, after, performed, _⟩ := perform_call_of_error outcome
    rw [looked] at outcome
    rw [performed]
    constructor
    · intro accepted
      cases accepted
    · rintro ⟨commit, accepted⟩
      cases outcome.symm.trans accepted

theorem isReady_answers {place : Place} {timer : Timer} {now : Nanos}
    (here : (session.heldTimer slot).handle = some place)
    (present : session.state.objects.timers place = some timer)
    (read : session.state.readClock timer.clock = .ok now) (nonnegative : 0 ≤ now.value) :
    ∃ after, (TimerStep.use .isReady).perform slot session =
        (.outcome (.value (.flag (session.canCall slot))), after) ∧
      after.heldTimer slot = session.heldTimer slot ∧
      after.state.objects = session.state.objects := by
  have looked := session.state_timer slot
  rw [← looked] at present read
  obtain ⟨left, ended, same⟩ := TimerHandle.isReady_of_read present read
  have agrees : (!timer.schedule.canceled && timer.schedule.isDue now) = session.canCall slot := by
    rw [looked] at present read
    rw [Bool.eq_iff_iff, canCall_iff here present read nonnegative, Bool.and_eq_true,
      Bool.not_eq_true', Schedule.isDue, decide_eq_true_eq]
  refine ⟨{ (session.timer slot).2 with state := left }, ?_, ?_, ?_⟩
  · rw [TimerStep.perform_use, Session.timer_fst, here, Option.elim_some]
    change (session.timer slot).2.respond (TimerHandle.isReady place) .flag = _
    rw [Session.respond_of_ok ended, agrees]
  · exact congrFun (Session.heldTimer_timer session slot) slot
  · rw [← looked]
    exact same

theorem ownedNow_answers {owned : OwnedClock} {place : Place} {now : Nanos}
    (found : session.ownedClock? slot = some owned) (here : owned.handle = some place)
    (read : session.state.readClock place = .ok now) (nonnegative : 0 ≤ now.value) :
    ((ClockStep.use .now).perform slot session).1 =
      .outcome (.value (.time ⟨now, owned.type, nonnegative⟩)) := by
  rw [← session.state_clock slot] at read
  obtain ⟨after, ended⟩ := OwnedClock.now_of_read here read nonnegative
  rw [Session.ownedClock?_eq] at found
  simp only [ClockStep.perform, ClockRequest.perform, Session.askOwned, Session.clock_fst, found]
  rw [Session.respond_of_ok ended]

theorem readClock_of_running (sound : session.HasSoundClocks) (running : session.HasRunningTimers)
    (nonnegative : session.HasNonnegativeOverrides) (real : session.state.realTime.IsNonnegative)
    {place : Place} (here : (session.heldTimer slot).handle = some place) :
    ∃ timer now, session.state.objects.timers place = some timer ∧
      session.state.readClock timer.clock = .ok now ∧ 0 ≤ now.value := by
  obtain ⟨rfl, timer, clock, present, on, _, found, there, typed⟩ := running slot place here
  obtain ⟨type, made, _⟩ := sound.made clock found there
  have readable : type ≠ .uninitialized := by
    cases made with
    | ros override => exact nofun
    | plain other => exact typed
  obtain ⟨now, read, least⟩ := made.read readable real (nonnegative clock found · there)
  obtain ⟨_, same⟩ := (clockIn_eq_some sound).mp there
  refine ⟨timer, now, present, ?_, least⟩
  rw [State.readClock, on, same]
  exact read

theorem readClock_of_owned (sound : session.HasSoundClocks)
    (nonnegative : session.HasNonnegativeOverrides) (real : session.state.realTime.IsNonnegative)
    {owned : OwnedClock} (found : session.ownedClock? slot = some owned) {place : Place}
    (here : owned.handle = some place) (typed : owned.type ≠ .uninitialized) :
    ∃ now, session.state.readClock place = .ok now ∧ 0 ≤ now.value := by
  rw [ownedClock?_eq, owned?_eq_some] at found
  have there : session.clockIn slot = some (session.state.objects.clocks place) := by
    rw [Session.clockIn, found, here]
    rfl
  obtain ⟨type, made, same⟩ := sound.made slot _ there
  have agrees := same owned.type (by rw [found])
  exact made.read (agrees ▸ typed) real (nonnegative slot _ · there)

end

/-- As long as overrides are written as times only, they are all in the range of times. At every
point of such a session at which the operating system's clocks can be read, an owned clock that has
a type and is not disposed of reads a time, and a timer that is not disposed of tells whether it is
ready: exactly if a call goes through now, and would after the question if the clock reads the same.
So a call is refused only of a timer that is canceled or not due yet. -/
theorem typed_overrides_keep_ready_timers_callable (depth : Nat) (environment : Environment)
    (readings : Nat → RealTime) (steps : List Step)
    (typed : ∀ step ∈ steps, step.writesNanos = false) :
    let session := (Session.start depth environment readings).after steps
    (∀ slot clock override, session.clockIn slot = some clock →
      clock.storedOverride = some override →
        0 ≤ override.value.value ∧ override.value.value ≤ Nanos.last.value) ∧
    (session.state.realTime.IsNonnegative →
      (∀ slot owned place, session.ownedClock? slot = some owned → owned.handle = some place →
        owned.type ≠ .uninitialized →
          ∃ time : Time, session.state.readClock place = .ok time.nanoseconds ∧
            ((Step.clock slot (.use .now)).perform session).1 = .outcome (.value (.time time))) ∧
      ∀ slot place, (session.heldTimer slot).handle = some place →
        ∃ timer now after, session.state.objects.timers place = some timer ∧
          session.state.readClock timer.clock = .ok now ∧
          (Step.timer slot (.use .isReady)).perform session =
            (.outcome (.value (.flag (session.canCall slot))), after) ∧
          (after.state.readClock timer.clock = .ok now →
            after.canCall slot = session.canCall slot) ∧
          (session.canCall slot = false ↔
            timer.schedule.canceled = true ∨ now.value < timer.schedule.nextCall.value)) := by
  intro session
  have start := start_hasSoundClocks depth environment readings
  have sound : session.HasSoundClocks := start.after steps
  have running : session.HasRunningTimers :=
    (start_hasRunningTimers depth environment readings).after start steps
  have nonnegative : session.HasNonnegativeOverrides :=
    (start_hasNonnegativeOverrides depth environment readings).after start typed
  refine ⟨?_, fun real => ⟨?_, ?_⟩⟩
  · intro slot clock override there stored
    exact ⟨nonnegative slot clock override there stored, override.value.greatest⟩
  · intro slot owned place found here type
    obtain ⟨now, read, least⟩ := readClock_of_owned sound nonnegative real found here type
    exact ⟨⟨now, owned.type, least⟩, read, ownedNow_answers found here read least⟩
  · intro slot place here
    obtain ⟨timer, now, present, read, least⟩ :=
      readClock_of_running sound running nonnegative real here
    obtain ⟨after, answered, held, objects⟩ := isReady_answers here present read least
    have callable := canCall_iff here present read least
    refine ⟨timer, now, after, present, read, answered, ?_, ?_⟩
    · intro readAfter
      rw [← held] at here
      rw [← objects] at present
      rw [Bool.eq_iff_iff, callable]
      exact canCall_iff here present readAfter least
    · rw [← Bool.not_eq_true, callable, Decidable.not_and_iff_or_not, Bool.not_eq_false, Int.not_le]

/-- A source drives the clock of a timer past its deadline. -/
def stepsOfDrivenTimer : List Step :=
  [.context 1 (.new [] none), .clock 1 (.new "ROS_TIME"), .timer 1 (.new 1 1 (.clamp 10) none),
    .source 1 (.new true), .source 1 (.use (.attach 1)),
    .source 1 (.use (.update ⟨"ROS_TIME", none, some (.clamp 25)⟩))]

/-- The timer is ready then, and the call goes through. -/
theorem typed_overrides_keep_ready_timers_callable_driven :
    let session :=
      (Session.start 3 .empty fun _ => ⟨.ok .zero, .ok .zero⟩).after stepsOfDrivenTimer
    (∀ step ∈ stepsOfDrivenTimer, step.writesNanos = false) ∧
      session.state.realTime.IsNonnegative ∧
      ((Step.timer 1 (.use .isReady)).perform session).1 = .outcome (.value (.flag true)) ∧
      session.canCall 1 = true := by
  intro session
  have typed : ∀ step ∈ stepsOfDrivenTimer, step.writesNanos = false := by
    simp [stepsOfDrivenTimer, Step.writesNanos]
  have real : session.state.realTime.IsNonnegative :=
    ⟨⟨.zero, rfl, Int.le_refl 0⟩, ⟨.zero, rfl, Int.le_refl 0⟩⟩
  have here : (session.heldTimer 1).handle = some (.handle 1) := by rfl
  have known := typed_overrides_keep_ready_timers_callable 3 .empty
    (fun _ => ⟨.ok .zero, .ok .zero⟩) stepsOfDrivenTimer typed
  obtain ⟨timer, now, after, present, read, answered, _, refused⟩ :=
    (known.2 real).2 1 (.handle 1) here
  cases present
  cases read
  have callable : session.canCall 1 = true := by
    rw [← Bool.not_eq_false]
    intro failed
    rcases refused.mp failed with canceled | early
    · cases canceled
    · exact absurd early (by decide)
  refine ⟨typed, real, ?_, callable⟩
  rw [← callable]
  exact congrArg Prod.fst answered

end RosClient
