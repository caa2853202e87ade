import Mathlib.Algebra.Ring.Int.Defs
import RosClient.Proofs.Timer.Order

namespace RosClient

/-- The time that the answer of an operation tells to have been handed on. -/
def Answer.elapsed? : Answer → Option Nanos
  | called _ fired => fired.map Prod.snd
  | _ => none

/-- The time that the answer of a step tells to have been handed on. -/
def StepAnswer.elapsed? : StepAnswer → Option Nanos
  | fired _ elapsed => elapsed.head?
  | _ => none

namespace Instant

/-- The time that a callback receives at an instant; callbacks run only when a timer is called. -/
def elapsed? (instant : Instant) : Option Nanos :=
  match instant.deed with
  | .operation (.timer target .call) =>
    (TimerCall.call.perform (pointerTo target) instant.session.state).answer.elapsed?
  | .timer slot (.use .call) =>
    ((TimerStep.use .call).perform slot instant.session).1.elapsed?
  | _ => none

/-- The time that the callback of the timer at a place receives at an instant. -/
def delivered (instant : Instant) (place : Place) : Option Nanos :=
  match instant.timerEvent place with
  | .call => instant.elapsed?
  | _ => none

/-- What the clock of the timer at a place reads at an instant, if its last call is that reading
then: at an initialisation, a reset or a call. -/
def mark (instant : Instant) (place : Place) : Option Nanos :=
  match instant.timerEvent place with
  | .init clock _ _ => (instant.session.state.readClock clock).toOption
  | .reset | .call =>
    (instant.session.state.objects.timers place).bind fun timer =>
      (instant.session.state.readClock timer.clock).toOption
  | _ => none

/-- Whether an instant arms the timer at a place. -/
def arms (instant : Instant) (place : Place) : Bool :=
  match instant.timerEvent place with
  | .init _ _ _ => true
  | .reset => true
  | _ => false

end Instant

theorem TimerCall.event_eq_call {request : TimerCall} :
    request.event = .call ↔ request = .call := by
  cases request <;> simp [event]

theorem TimerRequest.toCall_eq_call {request : TimerRequest} :
    request.toCall = .call ↔ request = .call := by
  cases request <;> simp [toCall]

theorem makingEvent_ne_call (source : Handle) (period : Nanos) (callback : Option Callback)
    (answer : StepAnswer) : makingEvent source period callback answer ≠ .call := by
  unfold makingEvent
  split
  · exact nofun
  · split <;> exact nofun

theorem TimerStep.timerEvent_eq_call {session : Session} {slot : Slot} {step : TimerStep}
    {place : Place} :
    step.timerEvent session slot place = .call ↔
      step = .use .call ∧ (session.heldTimer slot).handle = some place ∧
        (step.perform slot session).1.isOk = true := by
  cases step with
  | create clock context period =>
    simp only [timerEvent]
    split <;> simp [makingEvent_ne_call]
  | new clock context period function =>
    simp only [timerEvent]
    split <;> simp [makingEvent_ne_call]
  | use request =>
    simp only [timerEvent]
    split
    · next through =>
      rw [Bool.and_eq_true, decide_eq_true_eq] at through
      rw [TimerCall.event_eq_call, TimerRequest.toCall_eq_call]
      simp [through]
    · next stopped =>
      simp only [Bool.and_eq_true, decide_eq_true_eq] at stopped
      simp [stopped]
  | dispose | drop =>
    simp only [timerEvent]
    split <;> simp
  | hasCallback | handle => simp [timerEvent]

theorem elapsed?_eq_of_fits {firing : Firing} {slot : Slot}
    (fits : ∀ callback, firing.callback = some callback → callback.Fits (.caller slot)) :
    firing.record.map Prod.snd = firing.callback.map fun _ => firing.elapsed := by
  unfold Firing.record
  cases given : firing.callback with
  | none => rfl
  | some callback =>
    cases callback with
    | script token body => rfl
    | function fails => exact absurd rfl (fits _ given slot)

theorem elapsed?_callTimer {slot : Slot} {state : State}
    (sound : ∀ timer, state.objects.timers (.caller slot) = some timer →
      timer.IsSound (.caller slot))
    (accepted : (TimerCall.call.perform (some (.caller slot)) state).answer.isOk = true) :
    ∃ commit, Verdict.callTimer (some (.caller slot)) state = .ok commit ∧
      (TimerCall.call.perform (some (.caller slot)) state).answer.elapsed? =
        commit.value.callback.map fun _ => commit.value.elapsed := by
  obtain ⟨commit, outcome⟩ := State.isOk_callTimer_iff.mp accepted
  refine ⟨commit, outcome, ?_⟩
  rw [State.callTimer_of_ok outcome]
  obtain ⟨_, timer, ⟨here, present⟩, _, _, _, _, _, _, rfl⟩ := Verdict.callTimer_eq_ok.mp outcome
  cases here
  exact elapsed?_eq_of_fits (sound timer present).fits

theorem elapsed?_useTimer {session : Session} {slot : Slot} {place : Place}
    (here : (session.heldTimer slot).handle = some place)
    (accepted : ((TimerStep.use .call).perform slot session).1.isOk = true) :
    ∃ commit, Verdict.callTimer (some place) session.state = .ok commit ∧
      ((TimerStep.use .call).perform slot session).1.elapsed? =
        commit.value.callback.map fun _ => commit.value.elapsed := by
  rw [TimerStep.perform_use, Session.timer_fst, here, Option.elim_some] at accepted ⊢
  have looked := session.state_timer slot
  cases outcome : Verdict.callTimer (some place) (session.timer slot).2.state with
  | error fault =>
    obtain ⟨e, after, performed, _⟩ := perform_call_of_error outcome
    rw [performed] at accepted
    cases accepted
  | ok commit =>
    obtain ⟨after, performed, _⟩ := perform_call_of_ok outcome
    rw [looked] at outcome
    refine ⟨commit, outcome, ?_⟩
    rw [performed]
    cases given : commit.value.callback <;> rfl

/-- A call that goes through hands the time since the last call to the callback, if there is one. -/
theorem Instant.elapsed?_of_call {instant : Instant} {place : Place}
    (sound : instant.session.HasSoundTimers) (event : instant.timerEvent place = .call) :
    ∃ commit, Verdict.callTimer (some place) instant.session.state = .ok commit ∧
      instant.elapsed? = commit.value.callback.map fun _ => commit.value.elapsed := by
  obtain ⟨session, deed⟩ := instant
  cases deed with
  | operation asked =>
    cases place with
    | caller slot =>
      have fired := Moment.timerEvent_eq_call.mp event
      obtain ⟨rfl, accepted⟩ := callsTimer_eq_true.mp fired
      exact elapsed?_callTimer (sound _) accepted
    | handle slot | transient => cases event
  | timer slot step =>
    rw [timerEvent_timer, TimerStep.timerEvent_eq_call] at event
    obtain ⟨rfl, here, accepted⟩ := event
    exact elapsed?_useTimer here accepted
  | context | clock | source | startLogging => cases place <;> cases event

/-- A time is handed on only by a call of a timer that goes through. -/
theorem Instant.call_of_elapsed? {instant : Instant} {elapsed : Nanos}
    (handed : instant.elapsed? = some elapsed) : ∃ place, instant.timerEvent place = .call := by
  obtain ⟨session, deed⟩ := instant
  unfold Instant.elapsed? at handed
  split at handed
  · next target asked =>
    cases asked
    cases outcome : Verdict.callTimer (pointerTo target) session.state with
    | error fault =>
      rw [State.callTimer_of_error outcome] at handed
      cases handed
    | ok commit =>
      obtain ⟨_, _, ⟨here, _⟩, _⟩ := Verdict.callTimer_eq_ok.mp outcome
      obtain ⟨slot, rfl, rfl⟩ := Option.map_eq_some_iff.mp here
      have accepted := State.isOk_callTimer_iff.mpr ⟨commit, outcome⟩
      exact ⟨.caller slot,
        Moment.timerEvent_eq_call.mpr (callsTimer_eq_true.mpr ⟨rfl, accepted⟩)⟩
  · next slot asked =>
    cases asked
    rw [TimerStep.perform_use, Session.timer_fst] at handed
    cases here : (session.heldTimer slot).handle with
    | none =>
      rw [here] at handed
      cases handed
    | some place =>
      refine ⟨place, ?_⟩
      rw [timerEvent_timer, TimerStep.timerEvent_eq_call]
      refine ⟨rfl, here, ?_⟩
      rw [here, Option.elim_some] at handed
      rw [TimerStep.perform_use, Session.timer_fst, here, Option.elim_some]
      cases outcome : Verdict.callTimer (some place) (session.timer slot).2.state with
      | ok commit =>
        obtain ⟨after, performed, _⟩ := perform_call_of_ok outcome
        rw [performed]
        rfl
      | error fault =>
        obtain ⟨e, after, performed, _⟩ := perform_call_of_error outcome
        rw [performed] at handed
        cases handed
  · cases handed

/-- What an instant can be for the times of a timer. -/
inductive Instant.TimerBeat (instant : Instant) (place : Place) : Prop where
  /-- The timer is armed at the reading that becomes that of its last call. -/
  | arm (timer : Timer) (arms : instant.arms place = true)
    (undelivered : instant.delivered place = none)
    (armed : instant.after.state.objects.timers place = some timer)
    (marked : instant.mark place = some timer.schedule.lastCall)
  /-- A call goes through. -/
  | call (timer : Timer) (now : Nanos) (schedule : Schedule) (spared : instant.arms place = false)
    (delivered : instant.delivered place =
      timer.callback.map fun _ => now.sub timer.schedule.lastCall)
    (found : instant.session.state.objects.timers place = some timer)
    (marked : instant.mark place = some now)
    (nonnegative : 0 ≤ now.value) (due : timer.schedule.nextCall.value ≤ now.value)
    (called : instant.after.state.objects.timers place = some { timer with schedule })
    (last : schedule.lastCall = now)
  /-- The last call stays as it is, if the timer stays. -/
  | rest (spared : instant.arms place = false) (undelivered : instant.delivered place = none)
    (unmarked : instant.mark place = none)
    (kept : ∀ timer, instant.after.state.objects.timers place = some timer →
      ∃ before, instant.session.state.objects.timers place = some before ∧
        before.callback = timer.callback ∧ before.schedule.lastCall = timer.schedule.lastCall)

theorem Instant.timerBeat (instant : Instant) (place : Place)
    (sound : instant.session.HasSoundTimers) : instant.TimerBeat place := by
  have happened := instant.happens place
  unfold TimerEvent.HappensAt at happened
  cases event : instant.timerEvent place with
  | init clock period callback =>
    rw [event] at happened
    obtain ⟨_, _, now, read, made⟩ := happened
    refine .arm _ (by simp only [arms, event]) (by simp only [delivered, event]) made ?_
    simp only [mark, event, read]
    rfl
  | reset =>
    rw [event] at happened
    obtain ⟨before, found, now, read, made⟩ := happened
    change instant.session.state.objects.timers place = some before at found
    refine .arm _ (by simp only [arms, event]) (by simp only [delivered, event]) made ?_
    simp only [mark, event, found, Option.bind_some, read]
    rfl
  | call =>
    obtain ⟨commit, outcome, handed⟩ := elapsed?_of_call sound event
    obtain ⟨_, timer, ⟨here, found⟩, _, now, read, elapsed, schedule, called, rfl⟩ :=
      Verdict.callTimer_eq_ok.mp outcome
    cases here
    rw [event] at happened
    obtain ⟨_, present, _, _, readToo, _, _, calledToo, made⟩ := happened
    cases found.symm.trans present
    cases read.symm.trans readToo
    cases called.symm.trans calledToo
    obtain ⟨nonnegative, due, rfl, rfl⟩ := Schedule.call_eq_ok.mp called
    refine .call timer now _ (by simp only [arms, event]) ?_ found ?_ nonnegative due made rfl
    · simp only [delivered, event, handed]
    · simp only [mark, event, found, Option.bind_some, read]
      rfl
  | untouched =>
    rw [event] at happened
    refine .rest (by simp only [arms, event]) (by simp only [delivered, event])
      (by simp only [mark, event]) ?_
    intro timer present
    exact ⟨timer, happened.symm.trans present, rfl, rfl⟩
  | cancel =>
    rw [event] at happened
    refine .rest (by simp only [arms, event]) (by simp only [delivered, event])
      (by simp only [mark, event]) ?_
    intro timer present
    obtain ⟨before, found, made⟩ := happened
    cases made.symm.trans present
    exact ⟨before, found, rfl, rfl⟩
  | exchange =>
    rw [event] at happened
    refine .rest (by simp only [arms, event]) (by simp only [delivered, event])
      (by simp only [mark, event]) ?_
    intro timer present
    obtain ⟨before, found, _, made⟩ := happened
    cases made.symm.trans present
    exact ⟨before, found, rfl, rfl⟩
  | fini =>
    rw [event] at happened
    refine .rest (by simp only [arms, event]) (by simp only [delivered, event])
      (by simp only [mark, event]) ?_
    intro timer present
    cases happened.symm.trans present

/-- An instant marks the last call of a timer, and none behind it does. -/
def IsLatestMark (place : Place) (earlier : List Instant) (last : Nanos) : Prop :=
  ∃ before marking between, earlier = before ++ marking :: between ∧
    marking.mark place = some last ∧ ∀ instant ∈ between, instant.mark place = none

theorem isLatestMark_of_mark {place : Place} {instant : Instant} {last : Nanos}
    (marked : instant.mark place = some last) (earlier : List Instant) :
    IsLatestMark place (earlier ++ [instant]) last :=
  ⟨earlier, instant, [], rfl, marked, List.forall_mem_nil _⟩

theorem IsLatestMark.append {place : Place} {earlier : List Instant} {last : Nanos}
    (latest : IsLatestMark place earlier last) {instant : Instant}
    (unmarked : instant.mark place = none) : IsLatestMark place (earlier ++ [instant]) last := by
  obtain ⟨before, marking, between, rfl, marked, quiet⟩ := latest
  refine ⟨before, marking, between ++ [instant], by simp, marked, ?_⟩
  intro later member
  rcases List.mem_append.mp member with inside | last
  · exact quiet later inside
  · cases List.mem_singleton.mp last
    exact unmarked

/-- The last call of every timer is the latest mark in a history. -/
def Session.HasMarked (session : Session) (place : Place) (earlier : List Instant) : Prop :=
  ∀ timer, session.state.objects.timers place = some timer →
    IsLatestMark place earlier timer.schedule.lastCall

theorem Session.HasMarked.instant (instant : Instant) {place : Place} {earlier : List Instant}
    (marked : instant.session.HasMarked place earlier) (sound : instant.session.HasSoundTimers) :
    instant.after.HasMarked place (earlier ++ [instant]) := by
  intro timer present
  cases instant.timerBeat place sound with
  | arm armed _ _ made mark =>
    cases made.symm.trans present
    exact isLatestMark_of_mark mark earlier
  | call _ _ _ _ _ _ mark _ _ made last =>
    cases made.symm.trans present
    rw [← last] at mark
    exact isLatestMark_of_mark mark earlier
  | rest _ _ unmarked kept =>
    obtain ⟨before, found, _, same⟩ := kept timer present
    rw [← same]
    exact (marked before found).append unmarked

theorem Session.HasMarked.afterDeeds {session : Session} {place : Place}
    (marked : session.HasMarked place []) (sound : session.HasSoundTimers) (deeds : List Step) :
    (session.afterDeeds deeds).HasMarked place (session.instants deeds) := by
  have both := @instants_induction
    (fun earlier session => session.HasSoundTimers ∧ session.HasMarked place earlier) session
    ⟨sound, marked⟩
    (fun _ before deed kept => ⟨Instant.after_hasSoundTimers ⟨before, deed⟩ kept.1,
      HasMarked.instant ⟨before, deed⟩ kept.2 kept.1⟩) deeds
  exact both.2

/-- What callbacks received adds up to the distance of the last call from a start. -/
def Session.AddsUp (session : Session) (place : Place) (start : Nanos) (elapsed : List Nanos) :
    Prop :=
  ∀ timer, session.state.objects.timers place = some timer →
    0 ≤ timer.schedule.lastCall.value ∧
      (timer.callback.isSome = true →
        (elapsed.map Nanos.value).sum = timer.schedule.lastCall.value - start.value)

theorem Session.AddsUp.instant (instant : Instant) {place : Place} {start : Nanos}
    {elapsed : List Nanos} (adds : instant.session.AddsUp place start elapsed)
    (sound : instant.session.HasSoundTimers) (spared : instant.arms place = false) :
    instant.after.AddsUp place start (elapsed ++ (instant.delivered place).toList) := by
  intro timer present
  cases instant.timerBeat place sound with
  | arm _ arms =>
    rw [arms] at spared
    cases spared
  | call found now schedule _ delivered there _ nonnegative due made last =>
    cases made.symm.trans present
    obtain ⟨low, sum⟩ := adds found there
    have ordered := (sound place found there).ordered.calls
    have top := now.greatest
    have exactly : (now.sub found.schedule.lastCall).value =
        now.value - found.schedule.lastCall.value :=
      Nanos.value_clamp_of_mem (by omega) (by omega)
    refine ⟨by rw [last]; exact nonnegative, ?_⟩
    intro heard
    obtain ⟨callback, given⟩ := Option.isSome_iff_exists.mp heard
    have summed := sum heard
    rw [delivered, given, last]
    simp only [Option.map_some, Option.toList_some, List.map_append, List.map_cons, List.map_nil,
      List.sum_append, List.sum_cons, List.sum_nil]
    omega
  | rest _ undelivered _ kept =>
    obtain ⟨before, found, sameCallback, same⟩ := kept timer present
    rw [← same, ← sameCallback, undelivered, Option.toList_none, List.append_nil]
    exact adds before found

theorem Session.AddsUp.afterDeeds {session : Session} {place : Place} {start : Nanos}
    {elapsed : List Nanos} (adds : session.AddsUp place start elapsed)
    (sound : session.HasSoundTimers) (deeds : List Step)
    (spared : ∀ instant ∈ session.instants deeds, instant.arms place = false) :
    (session.afterDeeds deeds).AddsUp place start
      (elapsed ++ (session.instants deeds).filterMap (·.delivered place)) := by
  induction deeds generalizing session elapsed with
  | nil =>
    rw [Session.instants, List.filterMap_nil, List.append_nil]
    exact adds
  | cons deed rest ih =>
    have first := spared ⟨session, deed⟩ List.mem_cons_self
    have next := AddsUp.instant ⟨session, deed⟩ adds sound first
    have soundNext := Instant.after_hasSoundTimers ⟨session, deed⟩ sound
    have rested := ih next soundNext fun instant member =>
      spared instant (List.mem_cons_of_mem _ member)
    rw [List.append_assoc] at rested
    rw [Session.instants, List.filterMap_cons]
    cases delivered : Instant.delivered ⟨session, deed⟩ place with
    | none =>
      rw [delivered] at rested
      exact rested
    | some time =>
      rw [delivered] at rested
      exact rested

/-- In every session, whatever its clocks read, every timer is ordered at every instant. Every time
that a callback receives is that from the latest reading at which its timer was called or armed to
the present one, and not negative. And from an instant that arms a timer at a reading that is not
negative to the next, the times that its callback receives add up to the distance of its last call
from that reading. -/
theorem elapsed_never_lost (depth : Nat) (environment : Environment) (readings : Nat → RealTime)
    (steps : List Step) :
    let session := Session.start depth environment readings
    (∀ early late, session.deeds steps = early ++ late →
      ∀ place timer, (session.afterDeeds early).state.objects.timers place = some timer →
        timer.schedule.IsOrdered) ∧
    (∀ early deed late, session.deeds steps = early ++ deed :: late →
      let instant : Instant := ⟨session.afterDeeds early, deed⟩
      ∀ elapsed, instant.elapsed? = some elapsed →
        ∃ place now previous, instant.delivered place = some elapsed ∧
          instant.mark place = some now ∧ IsLatestMark place (session.instants early) previous ∧
          0 ≤ elapsed.value ∧
          elapsed.value = min Nanos.last.value (now.value - previous.value)) ∧
    (∀ early arming middle late, session.deeds steps = early ++ arming :: (middle ++ late) →
      let armed : Instant := ⟨session.afterDeeds early, arming⟩
      let behind := armed.after.instants middle
      ∀ place start, armed.arms place = true → armed.mark place = some start → 0 ≤ start.value →
        (∀ instant ∈ behind, instant.arms place = false) →
        ∀ timer, (armed.after.afterDeeds middle).state.objects.timers place = some timer →
          timer.callback.isSome = true →
            ((behind.filterMap (·.delivered place)).map Nanos.value).sum =
              timer.schedule.lastCall.value - start.value) := by
  intro session
  have started : session.HasSoundTimers := start_hasSoundTimers depth environment readings
  have sound (early : List Step) := started.afterDeeds early
  refine ⟨?_, ?_, ?_⟩
  · intro early late _ place timer present
    exact (sound early place timer present).ordered
  · intro early deed late _ instant elapsed handed
    obtain ⟨place, event⟩ := Instant.call_of_elapsed? handed
    have marked : session.HasMarked place [] := fun _ absurd => nomatch absurd
    have delivered : instant.delivered place = some elapsed := by
      simp only [Instant.delivered, event, handed]
    cases instant.timerBeat place (sound early) with
    | arm _ _ undelivered | rest _ undelivered =>
      rw [delivered] at undelivered
      cases undelivered
    | call timer now schedule _ told found mark nonnegative due made last =>
      have latest := marked.afterDeeds started early timer found
      have ordered := (sound early place timer found).ordered.calls
      have top := now.greatest
      rw [told] at delivered
      obtain ⟨_, _, rfl⟩ := Option.map_eq_some_iff.mp delivered
      refine ⟨place, now, _, told.trans delivered, mark, latest, ?_, ?_⟩
      · rw [Nanos.value_sub]
        omega
      · rw [Nanos.value_sub, Nanos.value_last]
        omega
  · intro early arming middle late _ armed behind place start arms mark nonnegative spared timer
      present heard
    have soundArmed := Instant.after_hasSoundTimers armed (sound early)
    have adds : armed.after.AddsUp place start [] := by
      intro first made
      cases armed.timerBeat place (sound early) with
      | arm _ _ _ made' mark' =>
        cases made.symm.trans made'
        cases mark.symm.trans mark'
        exact ⟨nonnegative, fun _ => (Int.sub_self _).symm⟩
      | call _ _ _ unarmed | rest unarmed =>
        rw [arms] at unarmed
        cases unarmed
    exact (adds.afterDeeds soundArmed middle spared timer present).2 heard

def sessionAtZero : Session := .start 5 .empty fun _ => ⟨.ok .zero, .ok .zero⟩

/-- A context in slot 3 and, in slot 2, a ROS clock with its override at zero. -/
def stepsBeforeTimer : List Step :=
  [.operation (.options (some 4) .init), .operation (.initContext 0 none (some 4) (some 3)),
    .operation (.clock (some 2) (.init .rosTime)), .operation (.clock (some 2) .enableOverride)]

/-- A callback that sets the clock to 50 and calls its timer again. -/
def nestedBody (_ : Nanos) : List Operation :=
  [.clock (some 2) (.setOverride (.clamp 50)), .timer (some 1) .call]

/-- A timer with a period of 10 and that callback. -/
def stepOfTimer : Step :=
  .operation (.initTimer (some 1) (some 2) (some 3) (.clamp 10) (some 7) nestedBody)

/-- The clock goes on to 35, where the timer is called, and back below zero. -/
def stepsWithNestedCalls : List Step :=
  [.operation (.clock (some 2) (.setOverride (.clamp 35))), .operation (.timer (some 1) .call),
    .operation (.clock (some 2) (.setOverride (.clamp (-5)))), .operation (.timer (some 1) .call)]

/-- The instant that arms the timer, and those behind it. -/
def armingInstant : Instant :=
  ⟨sessionAtZero.after stepsBeforeTimer, stepOfTimer⟩

def instantsBehind : List Instant :=
  armingInstant.after.instants (armingInstant.after.deeds stepsWithNestedCalls)

set_option maxRecDepth 2000 in
/-- The timer fires three times, once by the caller and twice in its own callback, and the times
add up to its last call at 50. -/
theorem elapsed_never_lost_nested :
    instantsBehind.filterMap (·.delivered (.caller 1)) = [.clamp 35, .clamp 15, .zero] ∧
      (35 + 15 + 0 : Int) = 50 - 0 := by
  have spared : (instantsBehind.all fun instant => !instant.arms (.caller 1)) = true := by rfl
  have delivered : instantsBehind.filterMap (·.delivered (.caller 1)) =
      [.clamp 35, .clamp 15, .zero] := by rfl
  have present : ((armingInstant.after.afterDeeds
      (armingInstant.after.deeds stepsWithNestedCalls)).state.objects.timers (.caller 1)) =
      some ⟨.caller 2, some (.script 7 nestedBody), ⟨.clamp 10, .clamp 50, .clamp 60, false⟩⟩ := by
    rfl
  have summed := (elapsed_never_lost 5 .empty (fun _ => ⟨.ok .zero, .ok .zero⟩)
    (stepsBeforeTimer ++ stepOfTimer :: stepsWithNestedCalls)).2.2 stepsBeforeTimer stepOfTimer
    (armingInstant.after.deeds stepsWithNestedCalls) [] (by rfl) (.caller 1) .zero (by rfl) (by rfl)
    (Int.le_refl 0) (fun instant member => by simpa using List.all_eq_true.mp spared instant member)
    _ present rfl
  change ((instantsBehind.filterMap (·.delivered (.caller 1))).map Nanos.value).sum = 50 - 0
    at summed
  rw [delivered] at summed
  exact ⟨delivered, summed⟩

end RosClient
