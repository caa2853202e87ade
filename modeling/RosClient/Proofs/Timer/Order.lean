import RosClient.Proofs.Timer.Grid
import RosClient.Proofs.Timer.Instant

namespace RosClient

/-- A schedule whose deadline is not behind its last call. -/
structure Schedule.IsOrdered (schedule : Schedule) : Prop where
  period : 0 ≤ schedule.period.value
  calls : schedule.lastCall.value ≤ schedule.nextCall.value

namespace Schedule

theorem isOrdered_start {period : Nanos} (nonnegative : 0 ≤ period.value) (now : Nanos) :
    (start period now).IsOrdered where
  period := nonnegative
  calls := by
    have sum := Nanos.value_add now period
    have bottom := now.least
    have top := now.greatest
    simp only [start]
    omega

namespace IsOrdered

variable {schedule : Schedule}

theorem call (ordered : schedule.IsOrdered) {now elapsed : Nanos} {after : Schedule}
    (called : schedule.call now = .ok (elapsed, after)) : after.IsOrdered := by
  obtain ⟨_, _, _, rfl⟩ := call_eq_ok.mp called
  exact ⟨ordered.period, le_nextDeadline ordered.period _ now⟩

theorem reset (ordered : schedule.IsOrdered) (now : Nanos) : (schedule.reset now).IsOrdered :=
  isOrdered_start ordered.period now

theorem cancel (ordered : schedule.IsOrdered) : schedule.cancel.IsOrdered :=
  ⟨ordered.period, ordered.calls⟩

theorem withPeriod (ordered : schedule.IsOrdered) {period : Nanos}
    (nonnegative : 0 ≤ period.value) : (schedule.withPeriod period).IsOrdered :=
  ⟨nonnegative, ordered.calls⟩

end IsOrdered

end Schedule

/-- A function runs only for a timer behind a handle. -/
def Callback.Fits (place : Place) : Callback → Prop
  | script _ _ => True
  | function _ => ∀ slot, place ≠ .caller slot

structure Timer.IsSound (place : Place) (timer : Timer) : Prop where
  ordered : timer.schedule.IsOrdered
  fits : ∀ callback, timer.callback = some callback → callback.Fits place

/-- Every timer of a session is in order. -/
def Session.HasSoundTimers (session : Session) : Prop :=
  ∀ place timer, session.state.objects.timers place = some timer → timer.IsSound place

theorem start_hasSoundTimers (depth : Nat) (environment : Environment) (readings : Nat → RealTime) :
    (Session.start depth environment readings).HasSoundTimers :=
  fun _ _ present => nomatch present

theorem TimerCall.event_ne_init (request : TimerCall) (clock : Place) (period : Nanos)
    (callback : Option Callback) : request.event ≠ .init clock period callback := by
  cases request <;> exact nofun

theorem fits_of_operation {state : State} {asked : Operation} {slot : Slot} {clock : Place}
    {period : Nanos} {callback : Option Callback}
    (event : Moment.timerEvent ⟨state, asked⟩ slot = .init clock period callback) :
    ∀ given, callback = some given → given.Fits (.caller slot) := by
  unfold Moment.timerEvent Operation.timerEvent at event
  split at event
  · split at event
    · split at event
      · cases event
        rintro given made
        obtain ⟨token, _, rfl⟩ := Option.map_eq_some_iff.mp made
        trivial
      · cases event
    · next target request _ =>
      split at event
      · exact absurd event (request.event_ne_init _ _ _)
      · cases event
    · cases event
  · cases event

theorem makingEvent_eq_init {source : Handle} {period since : Nanos}
    {callback given : Option Callback} {answer : StepAnswer} {clock : Place}
    (event : makingEvent source since given answer = .init clock period callback) :
    given = callback := by
  unfold makingEvent at event
  split at event
  · cases event
  · split at event
    · cases event
      rfl
    · cases event

/-- A timer that a step makes is in the slot of the step, and its callback, if it has one, is a
function. -/
theorem function_of_timerStep {session : Session} {slot : Slot} {step : TimerStep}
    {place clock : Place} {period : Nanos} {callback : Option Callback}
    (event : step.timerEvent session slot place = .init clock period callback) :
    place = .handle slot ∧ ∃ function : Option Bool, callback = function.map .function := by
  cases step with
  | create source context since =>
    simp only [TimerStep.timerEvent] at event
    split at event
    · next here => exact ⟨here, none, (makingEvent_eq_init event).symm⟩
    · cases event
  | new source context since function =>
    simp only [TimerStep.timerEvent] at event
    split at event
    · next here => exact ⟨here, function, (makingEvent_eq_init event).symm⟩
    · cases event
  | use request =>
    simp only [TimerStep.timerEvent] at event
    split at event
    · exact absurd event (request.toCall.event_ne_init _ _ _)
    · cases event
  | dispose | drop =>
    simp only [TimerStep.timerEvent] at event
    split at event <;> cases event
  | hasCallback | handle => cases event

theorem fits_of_timerStep {session : Session} {slot : Slot} {step : TimerStep} {place clock : Place}
    {period : Nanos} {callback : Option Callback}
    (event : step.timerEvent session slot place = .init clock period callback) :
    ∀ given, callback = some given → given.Fits place := by
  obtain ⟨rfl, function, rfl⟩ := function_of_timerStep event
  rintro given made
  obtain ⟨fails, _, rfl⟩ := Option.map_eq_some_iff.mp made
  exact fun _ => Place.noConfusion

theorem fits_of_init {instant : Instant} {place clock : Place} {period : Nanos}
    {callback : Option Callback}
    (event : instant.timerEvent place = .init clock period callback) :
    ∀ given, callback = some given → given.Fits place := by
  obtain ⟨session, deed⟩ := instant
  cases deed with
  | operation asked =>
    cases place with
    | caller slot => exact fits_of_operation event
    | handle slot | transient => cases event
  | timer slot step =>
    rw [Instant.timerEvent_timer] at event
    exact fits_of_timerStep event
  | context | clock | source | startLogging => cases place <;> cases event

theorem Instant.after_hasSoundTimers (instant : Instant) (sound : instant.session.HasSoundTimers) :
    instant.after.HasSoundTimers := by
  intro place timer present
  have happened := instant.happens place
  unfold TimerEvent.HappensAt at happened
  rw [present] at happened
  cases event : instant.timerEvent place with
  | untouched =>
    rw [event] at happened
    exact sound place timer happened.symm
  | init clock period callback =>
    rw [event] at happened
    obtain ⟨_, nonnegative, now, _, made⟩ := happened
    cases made
    exact ⟨Schedule.isOrdered_start nonnegative now, fits_of_init event⟩
  | call =>
    rw [event] at happened
    obtain ⟨before, found, _, now, _, elapsed, schedule, called, made⟩ := happened
    cases made
    have held := sound place before found
    exact ⟨held.ordered.call called, held.fits⟩
  | reset =>
    rw [event] at happened
    obtain ⟨before, found, now, _, made⟩ := happened
    cases made
    have held := sound place before found
    exact ⟨held.ordered.reset now, held.fits⟩
  | cancel =>
    rw [event] at happened
    obtain ⟨before, found, made⟩ := happened
    cases made
    have held := sound place before found
    exact ⟨held.ordered.cancel, held.fits⟩
  | exchange period =>
    rw [event] at happened
    obtain ⟨before, found, nonnegative, made⟩ := happened
    cases made
    have held := sound place before found
    exact ⟨held.ordered.withPeriod nonnegative, held.fits⟩
  | fini =>
    rw [event] at happened
    cases happened

theorem Session.HasSoundTimers.afterDeeds {session : Session} (sound : session.HasSoundTimers)
    (deeds : List Step) : (session.afterDeeds deeds).HasSoundTimers :=
  afterDeeds_induction sound (fun before deed => Instant.after_hasSoundTimers ⟨before, deed⟩) deeds

end RosClient
