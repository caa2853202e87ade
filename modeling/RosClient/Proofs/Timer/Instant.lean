import RosClient.Proofs.Session.Deed
import RosClient.Proofs.Timer.Event

namespace RosClient

/-- What an event finds at a place; an initialisation takes the place as it would an empty one. -/
def TimerEvent.found (before : Option Timer) : TimerEvent → Option Timer
  | init _ _ _ => none
  | untouched | call | reset | cancel | exchange _ | fini => before

/-- An event happens at a place from one session to another. -/
def TimerEvent.HappensAt (place : Place) (before after : Session) (event : TimerEvent) : Prop :=
  event.Makes before.state (event.found (before.state.objects.timers place))
    (after.state.objects.timers place)

theorem untouched_happensAt {place : Place} {before after : Session}
    (same : after.state.objects.timers place = before.state.objects.timers place) :
    TimerEvent.untouched.HappensAt place before after :=
  same

theorem TimerEvent.HappensAt.of_state {place : Place} {before looked after : Session}
    {event : TimerEvent} (happens : event.HappensAt place looked after)
    (same : looked.state = before.state) : event.HappensAt place before after := by
  unfold HappensAt at happens ⊢
  rw [← same]
  exact happens

/-- The call that a request of a live timer makes. -/
def TimerRequest.toCall : TimerRequest → TimerCall
  | isReady => .isReady true
  | isCanceled => .isCanceled true
  | reset => .reset
  | cancel => .cancel
  | untilNextCall => .untilNextCall true
  | sinceLastCall => .sinceLastCall true
  | period => .period true
  | exchangePeriod next => .exchangePeriod next true
  | setPeriod next => .exchangePeriod next true
  | call => .call

/-- The event that making a timer behind a handle is: if it fails, there is no timer then. -/
def makingEvent (clock : Handle) (period : Nanos) (callback : Option Callback) :
    StepAnswer → TimerEvent
  | .refused _ => .untouched
  | answer =>
    match clock, answer.isOk with
    | some source, true => .init source period callback
    | _, _ => .fini

/-- The event that a step on timers is for the timer at a place. -/
def TimerStep.timerEvent (session : Session) (slot : Slot) (place : Place) (step : TimerStep) :
    TimerEvent :=
  let answer := (step.perform slot session).1
  let held := session.heldTimer slot
  match step with
  | create clock _ period =>
    if place = .handle slot then
      makingEvent (session.heldClock clock).handle period none answer
    else .untouched
  | new clock _ period function =>
    if place = .handle slot then
      makingEvent (session.heldClock clock).handle period (function.map .function) answer
    else .untouched
  | use request =>
    if held.handle = some place && answer.isOk then request.toCall.event else .untouched
  | dispose => if held.handle = some place then .fini else .untouched
  | drop => if held.handle = some place && held.owned then .fini else .untouched
  | hasCallback => .untouched
  | handle => .untouched

namespace Instant

/-- The event that an instant is for the timer at a place. -/
def timerEvent (instant : Instant) (place : Place) : TimerEvent :=
  match instant.deed, place with
  | .operation asked, .caller slot => Moment.timerEvent ⟨instant.session.state, asked⟩ slot
  | .timer slot step, place => step.timerEvent instant.session slot place
  | _, _ => .untouched

theorem timerEvent_timer (session : Session) (slot : Slot) (step : TimerStep) (place : Place) :
    timerEvent ⟨session, .timer slot step⟩ place = step.timerEvent session slot place := by
  cases place <;> rfl

end Instant

namespace TimerHandle

theorem setPeriod_endsAs (place : Place) (next : Nanos) :
    EndsAs (setPeriod place next) (Verdict.exchangePeriod (some place) next true) :=
  (endsAs_attempt _ _).bind fun _ state => ⟨(), state, rfl, rfl⟩

theorem call_endsAs (place : Place) : EndsAs (call place) (Verdict.callTimer (some place)) :=
  (endsAs_attempt _ _).bind fun _ _ => ⟨_, _, bind_of_ok rfl, rfl⟩

end TimerHandle

theorem respond_makes {α β : Type} {action : Action β} {call : Call α} {verdict : Verdict α}
    [Settles call Fault.status verdict] (ends : EndsAs action verdict) {session : Session}
    {place : Place} {event : TimerEvent} (output : α → Option Value)
    (made : (session.state.respond call output).answer.isOk = true →
      event.Makes session.state (session.state.objects.timers place)
        ((session.state.respond call output).state.objects.timers place))
    (value : β → Value) :
    (if (session.respond action value).1.isOk then event else .untouched).Makes
      session.state (session.state.objects.timers place)
      ((session.respond action value).2.state.objects.timers place) := by
  cases outcome : verdict session.state with
  | ok commit =>
    have accepted := made (State.isOk_respond_iff.mpr ⟨commit, outcome⟩)
    obtain ⟨result, after, ended, stored⟩ := ends.ok session.state commit outcome
    rw [timers_respond_of_ok call outcome, ← stored] at accepted
    rw [Session.respond_of_ok ended]
    exact accepted
  | error fault =>
    obtain ⟨e, after, ended, same⟩ := ends.error session.state fault outcome
    rw [Session.respond_of_error ended]
    exact congrFun (congrArg Objects.timers same) place

theorem perform_call_of_ok {place : Place} {session : Session} {commit : Commit Firing}
    (accepted : Verdict.callTimer (some place) session.state = .ok commit) :
    ∃ after, TimerRequest.call.perform place session =
        (.fired (.value .nothing)
          (if commit.value.callback.isSome then [commit.value.elapsed] else []),
          { session with state := after }) ∧
      after.objects = commit.objects := by
  let after := (session.state.committed commit).write
    (TimerHandle.callbackRecords commit.value.callback)
  have ended : TimerHandle.call place session.state = .ok _ after :=
    (bind_of_ok (attempt_of_ok accepted)).trans (bind_of_ok rfl)
  exact ⟨after, by simp only [TimerRequest.perform, Session.act, ended], rfl⟩

theorem perform_call_of_error {place : Place} {session : Session} {fault : Fault}
    (refused : Verdict.callTimer (some place) session.state = .error fault) :
    ∃ e after, TimerRequest.call.perform place session =
        (.fired (.error e) [], { session with state := after }) ∧
      after.objects = session.state.objects := by
  obtain ⟨e, after, ended, same⟩ := (TimerHandle.call_endsAs place).error _ _ refused
  refine ⟨e, after, ?_, same⟩
  simp only [TimerRequest.perform, Session.act, ended]

/-- What a request makes of the timer at its place. -/
theorem TimerRequest.perform_makes (request : TimerRequest) (place : Place) (session : Session) :
    (if (request.perform place session).1.isOk then request.toCall.event else .untouched).Makes
      session.state (session.state.objects.timers place)
      ((request.perform place session).2.state.objects.timers place) := by
  have made := request.toCall.perform_makes place session.state
  cases request with
  | isReady | isCanceled =>
    exact respond_makes (endsAs_attempt _ _) (fun value => some (.flag value)) made _
  | reset | cancel => exact respond_makes (endsAs_attempt _ _) (fun _ => none) made _
  | untilNextCall | sinceLastCall | period | exchangePeriod =>
    exact respond_makes (endsAs_attempt _ _) (fun value => some (.nanos value)) made _
  | setPeriod next =>
    exact respond_makes (TimerHandle.setPeriod_endsAs place next)
      (fun value => some (.nanos value)) made _
  | call =>
    cases outcome : Verdict.callTimer (some place) session.state with
    | ok commit =>
      obtain ⟨after, performed, stored⟩ := perform_call_of_ok outcome
      rw [toCall, State.callTimer_of_ok outcome] at made
      rw [performed]
      simp only [StepAnswer.isOk, ↓reduceIte, stored]
      exact made rfl
    | error fault =>
      obtain ⟨e, after, performed, same⟩ := perform_call_of_error outcome
      rw [performed]
      exact congrFun (congrArg Objects.timers same) place

theorem found_event (request : TimerCall) (before : Option Timer) :
    request.event.found before = before := by
  cases request <;> rfl

theorem TimerHandle.create_makes (slot : Slot) (clock context : Handle) (period : Nanos)
    (callback : Option Callback) (state : State) :
    (∃ source after, clock = some source ∧
      create slot clock context period callback state = .ok (some (.handle slot)) after ∧
      (TimerEvent.init source period callback).Makes state none
        (after.objects.timers (.handle slot))) ∨
    ∃ e after, create slot clock context period callback state = .error e after ∧
      after.objects.timers (.handle slot) = none := by
  let clear (state : State) : State :=
    { state with objects := state.objects.setTimer (.handle slot) none }
  let cleared := clear state
  have made : (modify clear : Action Unit) state = .ok () cleared := rfl
  cases outcome : Verdict.initTimer (some (.handle slot)) clock context period callback cleared with
  | ok commit =>
    left
    have ended : create slot clock context period callback state =
        .ok (some (.handle slot)) (cleared.committed commit) :=
      (bind_of_ok made).trans (bind_of_ok (attempt_of_ok outcome))
    obtain ⟨_, here, source, there, _, _, nonnegative, _, now, read, rfl⟩ :=
      Verdict.initTimer_eq_ok.mp outcome
    cases here
    exact ⟨source, _, there, ended, rfl, nonnegative, now, read, replace_self _ _ _⟩
  | error fault =>
    right
    have ended : create slot clock context period callback state = .error _ _ :=
      (bind_of_ok made).trans (bind_of_error (attempt_of_error outcome))
    exact ⟨_, _, ended, replace_self _ _ _⟩

theorem storeTimer_happens (session : Session) (slot clock : Slot) (owned : Bool)
    (source context : Handle) (period : Nanos) (callback : Option Callback)
    (answer : Outcome → Session → StepAnswer)
    (tells : ∀ outcome after, answer outcome after = .outcome outcome ∨
      ∃ function, answer outcome after = .kept outcome function)
    {outcome : Outcome} {after : Session}
    (stored : session.storeTimer slot clock owned
      (TimerHandle.create slot source context period callback) = (outcome, after)) :
    (makingEvent source period callback (answer outcome after)).HappensAt (.handle slot) session
      after := by
  unfold Session.storeTimer Session.store Session.act at stored
  rcases TimerHandle.create_makes slot source context period callback session.state with
    ⟨place, left, rfl, ended, made⟩ | ⟨e, left, ended, absent⟩
  · rw [ended] at stored
    cases stored
    rcases tells (.value .nothing) (Session.putTimer { session with state := left } slot
      ⟨some (.handle slot), some clock, owned⟩) with told | ⟨function, told⟩
    · rw [told]
      exact made
    · rw [told]
      exact made
  · rw [ended] at stored
    cases stored
    rcases tells (.error e) { session with state := left } with told | ⟨function, told⟩
    · rw [told]
      cases source <;> exact absent
    · rw [told]
      cases source <;> exact absent

theorem clock_context_fst (session : Session) (context clock : Slot) :
    ((session.context context).2.clock clock).1 = session.heldClock clock := by
  rw [Session.clock_fst, Session.heldClock_context]

theorem state_clock_context (session : Session) (context clock : Slot) :
    ((session.context context).2.clock clock).2.state = session.state := by
  rw [Session.state_clock, Session.state_context]

theorem makeTimer_happens (session : Session) (slot clock context : Slot) (period : Nanos) :
    (makingEvent (session.heldClock clock).handle period none
      (session.makeTimer slot clock context period).1).HappensAt (.handle slot) session
      (session.makeTimer slot clock context period).2 := by
  rw [← clock_context_fst session context clock]
  unfold Session.makeTimer
  split
  · exact untouched_happensAt rfl
  · exact (storeTimer_happens _ slot clock false _ _ period none
      (fun outcome _ => .outcome outcome) (fun _ _ => Or.inl rfl) rfl).of_state
      (state_clock_context session context clock)

theorem makeOwnedTimer_happens (session : Session) (slot clock context : Slot) (period : Nanos)
    (function : Option Bool) :
    (makingEvent (session.heldClock clock).handle period (function.map .function)
      (session.makeOwnedTimer slot clock context period function).1).HappensAt (.handle slot)
      session (session.makeOwnedTimer slot clock context period function).2 := by
  have tells (outcome : Outcome) (after : Session) :
      madeAnswer slot function after outcome = .outcome outcome ∨
        ∃ kept, madeAnswer slot function after outcome = .kept outcome kept := by
    unfold madeAnswer
    split
    · exact Or.inl rfl
    · exact Or.inr ⟨_, rfl⟩
    · exact Or.inr ⟨_, rfl⟩
  rw [← clock_context_fst session context clock, Session.makeOwnedTimer_eq]
  split
  · exact untouched_happensAt rfl
  · simp only
    split
    · exact (storeTimer_happens _ slot clock true _ _ period _
        (fun outcome after => madeAnswer slot function after outcome) tells rfl).of_state
        (state_clock_context session context clock)
    · exact untouched_happensAt
        (congrArg (·.objects.timers (.handle slot)) (state_clock_context session context clock))

theorem timers_perform_of_foreign (operation : Operation) (state : State) {place : Place}
    (foreign : ∀ slot, place ≠ .caller slot) :
    (operation.perform state).state.objects.timers place = state.objects.timers place := by
  apply operation.perform_keeps state (·.timers place)
  cases operation with
  | timer slot request => exact Objects.hides_timer_of_ne (pointerTo_ne foreign slot)
  | initTimer target => exact Objects.hides_timer_of_ne (pointerTo_ne foreign target)
  | options | initContext | context | clock => exact fun _ _ _ _ => rfl
  | errorIsSet | errorText | resetError | setVariable | refuse | otherThread | installLogger =>
    trivial

section

variable {session : Session} {slot : Slot} {place : Place}

theorem hides_timer_of_place_ne {other : Place} (apart : place ≠ other) :
    Objects.Hides (·.timers place) Objects.setTimer (some other) :=
  Objects.hides_timer_of_ne fun same => apart (Option.some.inj same).symm

theorem useTimer_happens (request : TimerRequest) :
    ((TimerStep.use request).timerEvent session slot place).HappensAt place session
      ((TimerStep.use request).perform slot session).2 := by
  simp only [TimerStep.timerEvent, TimerStep.perform_use, Session.timer_fst]
  cases held : (session.heldTimer slot).handle with
  | none =>
    exact untouched_happensAt (congrArg (·.objects.timers place) (session.state_timer slot))
  | some other =>
    by_cases same : place = other
    · subst same
      have made := request.perform_makes place (session.timer slot).2
      rw [Session.state_timer] at made
      simp only [Option.elim_some, decide_true, Bool.true_and]
      split
      · next accepted =>
        rw [if_pos accepted] at made
        unfold TimerEvent.HappensAt
        rw [found_event]
        exact made
      · next failed =>
        rw [if_neg failed] at made
        exact made
    · have kept := request.perform_keeps (hides_timer_of_place_ne same) (session.timer slot).2
      rw [Session.state_timer] at kept
      have other : ¬ some other = some place := fun here => same (Option.some.inj here).symm
      simp only [other, decide_false, Bool.false_and, Bool.false_eq_true, ↓reduceIte]
      exact untouched_happensAt kept

theorem TimerHandle.dispose_some (place : Place) (state : State) :
    ∃ after, dispose (some place) state = .ok none after ∧ after.objects.timers place = none := by
  have accepted : Verdict.finiTimer (some place) state = .ok _ := rfl
  exact ⟨_, bind_of_ok (attempt_of_ok accepted), replace_self _ _ _⟩

theorem disposeTimer_happens :
    (TimerStep.dispose.timerEvent session slot place).HappensAt place session
      (session.disposeTimer slot).2 := by
  simp only [TimerStep.timerEvent]
  split
  · next here =>
    obtain ⟨after, ended, gone⟩ := TimerHandle.dispose_some place session.state
    rw [← Session.timer_fst] at here
    change TimerEvent.fini.HappensAt place session ((session.timer slot).2.store
      (TimerHandle.dispose (session.timer slot).1.handle) _).2
    rw [Session.store_snd, here, Session.state_timer, ended]
    exact gone
  · next apart =>
    exact untouched_happensAt (disposeTimer_keeps (Objects.hides_timer_of_ne apart))

theorem dropTimer_happens :
    (TimerStep.drop.timerEvent session slot place).HappensAt place session
      (session.dropTimer slot).2 := by
  simp only [TimerStep.timerEvent]
  split
  · next dropped =>
    rw [Bool.and_eq_true, decide_eq_true_eq] at dropped
    obtain ⟨here, owned⟩ := dropped
    obtain ⟨after, ended, gone⟩ := TimerHandle.dispose_some place session.state
    unfold Session.heldTimer at here owned
    unfold Session.dropTimer
    cases present : session.timers.get? slot with
    | none =>
      rw [present] at here
      cases here
    | some held =>
      rw [present] at here owned
      simp only [Option.getD_some] at here owned
      simp only [owned, here, ↓reduceIte]
      change (TimerHandle.release (some place) session.state).objects.timers place = none
      rw [TimerHandle.release, release_of_ok ended]
      exact gone
  · next spared =>
    rw [Bool.and_eq_true, decide_eq_true_eq, not_and] at spared
    apply untouched_happensAt
    unfold Session.heldTimer at spared
    unfold Session.dropTimer
    cases present : session.timers.get? slot with
    | none => rfl
    | some held =>
      rw [present] at spared
      cases owned : held.owned with
      | false =>
        simp only [owned]
        rfl
      | true =>
        have apart : held.handle ≠ some place := fun here => spared here owned
        simp only [owned]
        exact TimerHandle.release_keeps (Objects.hides_timer_of_ne apart) session.state

theorem TimerStep.happens (step : TimerStep) :
    (step.timerEvent session slot place).HappensAt place session (step.perform slot session).2 := by
  have looked : (session.timer slot).2.state.objects.timers place =
      session.state.objects.timers place :=
    congrArg (·.objects.timers place) (session.state_timer slot)
  cases step with
  | create clock context period =>
    simp only [TimerStep.timerEvent]
    split
    · next here =>
      subst here
      exact makeTimer_happens session slot clock context period
    · next apart =>
      exact untouched_happensAt
        (makeTimer_keeps (hides_timer_of_place_ne apart) session clock context period)
  | new clock context period function =>
    simp only [TimerStep.timerEvent]
    split
    · next here =>
      subst here
      exact makeOwnedTimer_happens session slot clock context period function
    · next apart =>
      exact untouched_happensAt (makeOwnedTimer_keeps (hides_timer_of_place_ne apart) session clock
        context period function)
  | use request => exact useTimer_happens request
  | hasCallback =>
    apply untouched_happensAt
    simp only [TimerStep.perform]
    split <;> exact looked
  | handle => exact untouched_happensAt looked
  | dispose => exact disposeTimer_happens
  | drop => exact dropTimer_happens

theorem operation_happens (asked : Operation) :
    (Instant.timerEvent ⟨session, .operation asked⟩ place).HappensAt place session
      { session with state := (asked.perform session.state).state } := by
  cases place with
  | caller slot =>
    have made := Moment.timer_after ⟨session.state, asked⟩ slot
    change (Moment.timerEvent ⟨session.state, asked⟩ slot).HappensAt (.caller slot) session _
    unfold TimerEvent.HappensAt
    cases event : Moment.timerEvent ⟨session.state, asked⟩ slot with
    | init clock period callback =>
      rw [event] at made
      exact ⟨rfl, made.2⟩
    | untouched | call | reset | cancel | exchange | fini =>
      rw [event] at made
      exact made
  | handle slot =>
    exact untouched_happensAt (timers_perform_of_foreign asked session.state fun _ => nofun)
  | transient =>
    exact untouched_happensAt (timers_perform_of_foreign asked session.state fun _ => nofun)

/-- All that an instant can do to the timer at a place. -/
theorem Instant.happens (instant : Instant) (place : Place) :
    (instant.timerEvent place).HappensAt place instant.session instant.after := by
  obtain ⟨session, deed⟩ := instant
  cases deed with
  | operation asked => exact operation_happens asked
  | timer slot step =>
    rw [timerEvent_timer]
    exact step.happens
  | context slot step =>
    exact untouched_happensAt (step.perform_keeps (·.timers place) (fun _ _ _ _ => rfl)
      (fun _ _ _ _ => rfl) (fun _ _ _ _ => rfl))
  | clock slot step =>
    exact untouched_happensAt (step.perform_keeps (·.timers place) (fun _ _ _ _ => rfl)
      (fun _ _ _ _ => rfl))
  | source slot step =>
    have kept (clock : Handle) : Verdict.KeptByOverrides (·.timers place) clock :=
      Verdict.keptByOverrides_of_hides fun _ _ _ _ => rfl
    exact untouched_happensAt (step.perform_keeps (·.timers place) slot
      (fun _ _ _ _ => kept _) fun _ _ _ _ => kept _)
  | startLogging => exact untouched_happensAt rfl

end

end RosClient
