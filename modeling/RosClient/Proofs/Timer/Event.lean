import RosClient.Proofs.Operation.Objects
import RosClient.Proofs.Run.Moment

namespace RosClient

/-- What happens to a timer. -/
inductive TimerEvent where
  | untouched
  | init (clock : Place) (period : Nanos) (callback : Option Callback)
  | call
  | reset
  | cancel
  | exchange (period : Nanos)
  | fini

/-- The event that a request is for its timer, if it goes through. -/
def TimerCall.event : TimerCall → TimerEvent
  | call => .call
  | reset => .reset
  | cancel => .cancel
  | exchangePeriod next _ => .exchange next
  | fini => .fini
  | isReady _ | isCanceled _ | untilNextCall _ | sinceLastCall _ | period _ => .untouched

/-- The event that an operation is for the timer of a slot, if it goes through. -/
def Operation.timerEvent (slot : Slot) : Operation → TimerEvent
  | initTimer (some target) (some source) _ period callback body =>
    if target = slot then .init (.caller source) period (callback.map (.script · body))
    else .untouched
  | timer (some target) request => if target = slot then request.event else .untouched
  | _ => .untouched

/-- The event that a moment is for the timer of a slot: none if the operation is refused. -/
def Moment.timerEvent (moment : Moment) (slot : Slot) : TimerEvent :=
  if moment.answer.isOk then moment.operation.timerEvent slot else .untouched

/-- The event that the caller sees for the timer of a slot in an operation and its answer. -/
def timerEventOf (slot : Slot) (record : Operation × Answer) : TimerEvent :=
  if record.2.isOk then record.1.timerEvent slot else .untouched

/-- What an event makes of a timer in a state; without a timer only `init` and `fini` happen. -/
def TimerEvent.Makes (state : State) (before after : Option Timer) : TimerEvent → Prop
  | untouched => after = before
  | init clock period callback =>
    before = none ∧ 0 ≤ period.value ∧ ∃ now, state.readClock clock = .ok now ∧
      after = some ⟨clock, callback, .start period now⟩
  | call =>
    ∃ timer, before = some timer ∧ timer.schedule.canceled = false ∧
      ∃ now, state.readClock timer.clock = .ok now ∧
        ∃ elapsed schedule, timer.schedule.call now = .ok (elapsed, schedule) ∧
          after = some { timer with schedule }
  | reset =>
    ∃ timer, before = some timer ∧ ∃ now, state.readClock timer.clock = .ok now ∧
      after = some { timer with schedule := timer.schedule.reset now }
  | cancel =>
    ∃ timer, before = some timer ∧ after = some { timer with schedule := timer.schedule.cancel }
  | exchange period =>
    ∃ timer, before = some timer ∧ 0 ≤ period.value ∧
      after = some { timer with schedule := timer.schedule.withPeriod period }
  | fini => after = none

theorem Verdict.Looks.timers_respond {α : Type} {call : Call α} {verdict : Verdict α}
    [Settles call Fault.status verdict] (looks : verdict.Looks) (state : State)
    (output : α → Option Value) (place : Place) :
    (state.respond call output).state.objects.timers place = state.objects.timers place :=
  congrFun (congrArg Objects.timers (looks.objects_respond state output)) place

theorem timers_respond_of_ok {α : Type} {state : State} (call : Call α) {verdict : Verdict α}
    [Settles call Fault.status verdict] {commit : Commit α} (accepted : verdict state = .ok commit)
    (output : α → Option Value) (place : Place) :
    (state.respond call output).state.objects.timers place = commit.objects.timers place := by
  rw [State.respond_of_ok accepted, State.objects_committed]

theorem callTimer_makes (place : Place) (state : State)
    (accepted : (TimerCall.call.perform (some place) state).answer.isOk = true) :
    TimerEvent.call.Makes state (state.objects.timers place)
      ((TimerCall.call.perform (some place) state).state.objects.timers place) := by
  obtain ⟨commit, outcome⟩ := State.isOk_callTimer_iff.mp accepted
  rw [State.callTimer_of_ok outcome]
  obtain ⟨_, timer, ⟨here, present⟩, running, now, read, elapsed, schedule, called, rfl⟩ :=
    Verdict.callTimer_eq_ok.mp outcome
  cases here
  exact ⟨timer, present, running, now, read, elapsed, schedule, called,
    Verdict.timers_reschedule ..⟩

/-- What a request that goes through makes of the timer at its place. -/
theorem TimerCall.perform_makes (request : TimerCall) (place : Place) (state : State)
    (accepted : (request.perform (some place) state).answer.isOk = true) :
    request.event.Makes state (state.objects.timers place)
      ((request.perform (some place) state).state.objects.timers place) := by
  cases request with
  | isReady output => exact (Verdict.timerIsReady_looks output).timers_respond _ _ _
  | isCanceled output => exact (Verdict.timerIsCanceled_looks output).timers_respond _ _ _
  | untilNextCall output => exact (Verdict.timeUntilNextCall_looks output).timers_respond _ _ _
  | sinceLastCall output => exact (Verdict.timeSinceLastCall_looks output).timers_respond _ _ _
  | period output => exact (Verdict.timerPeriod_looks output).timers_respond _ _ _
  | call => exact callTimer_makes place state accepted
  | reset =>
    obtain ⟨commit, outcome⟩ := State.isOk_respond_iff.mp accepted
    have stored := timers_respond_of_ok (Call.resetTimer (some place)) outcome (fun _ => none) place
    obtain ⟨_, timer, ⟨here, present⟩, now, read, rfl⟩ := Verdict.resetTimer_eq_ok.mp outcome
    cases here
    exact ⟨timer, present, now, read, stored.trans (Verdict.timers_reschedule ..)⟩
  | cancel =>
    obtain ⟨commit, outcome⟩ := State.isOk_respond_iff.mp accepted
    have stored :=
      timers_respond_of_ok (Call.cancelTimer (some place)) outcome (fun _ => none) place
    obtain ⟨_, timer, ⟨here, present⟩, rfl⟩ := Verdict.cancelTimer_eq_ok.mp outcome
    cases here
    exact ⟨timer, present, stored.trans (Verdict.timers_reschedule ..)⟩
  | exchangePeriod next output =>
    obtain ⟨commit, outcome⟩ := State.isOk_respond_iff.mp accepted
    have stored := timers_respond_of_ok (Call.exchangePeriod (some place) next output) outcome
      (fun value => some (.nanos value)) place
    obtain ⟨_, _, timer, ⟨here, present⟩, nonnegative, rfl⟩ :=
      Verdict.exchangePeriod_eq_ok.mp outcome
    cases here
    exact ⟨timer, present, nonnegative, stored.trans (Verdict.timers_reschedule ..)⟩
  | fini =>
    obtain ⟨commit, outcome⟩ := State.isOk_respond_iff.mp accepted
    have stored := timers_respond_of_ok (Call.finiTimer (some place)) outcome (fun _ => none) place
    cases outcome
    exact stored.trans (replace_self _ _ _)

theorem initTimer_makes {place clock : Place} {context : Option Place} {period : Nanos}
    {callback : Option Callback} {state : State}
    (accepted : (state.respondStatus
      (Call.initTimer (some place) (some clock) context period callback)).answer.isOk = true) :
    (TimerEvent.init clock period callback).Makes state (state.objects.timers place)
      ((state.respondStatus (Call.initTimer (some place) (some clock) context period
        callback)).state.objects.timers place) := by
  obtain ⟨commit, outcome⟩ := State.isOk_respond_iff.mp accepted
  have stored := timers_respond_of_ok
    (Call.initTimer (some place) (some clock) context period callback) outcome (fun _ => none) place
  obtain ⟨_, here, _, there, _, absent, nonnegative, _, now, read, rfl⟩ :=
    Verdict.initTimer_eq_ok.mp outcome
  cases here
  cases there
  exact ⟨absent, nonnegative, now, read, stored.trans (replace_self _ _ _)⟩

theorem timers_of_other {target : Option Slot} {slot : Slot} {before after : Objects}
    (changed : Objects.Changes Objects.setTimer (pointerTo target) before after)
    (other : target ≠ some slot) :
    after.timers (.caller slot) = before.timers (.caller slot) := by
  apply changed.keeps (·.timers (.caller slot))
  apply Objects.hides_timer_of_ne
  intro here
  obtain ⟨found, rfl, same⟩ := Option.map_eq_some_iff.mp here
  cases same
  exact other rfl

theorem timers_perform_of_not_isOk (operation : Operation) (state : State)
    (failed : (operation.perform state).answer.isOk = false) :
    (operation.perform state).state.objects.timers = state.objects.timers := by
  cases operation with
  | initTimer => exact congrArg Objects.timers (State.objects_respond_of_not_isOk failed)
  | timer target request =>
    cases request with
    | call =>
      cases outcome : Verdict.callTimer (pointerTo target) state with
      | error fault => simp only [Operation.perform, State.callTimer_of_error outcome,
          State.objects_refused]
      | ok commit =>
        have accepted := State.isOk_callTimer_iff.mpr ⟨commit, outcome⟩
        cases accepted.symm.trans failed
    | isReady | isCanceled | reset | cancel | untilNextCall | sinceLastCall | period
    | exchangePeriod | fini =>
      exact congrArg Objects.timers (State.objects_respond_of_not_isOk failed)
  | errorIsSet | errorText | resetError | otherThread | setVariable | installLogger | options
  | initContext | context | clock | refuse => exact Operation.timers_perform _ state rfl

/-- All that an operation can do to the timer of a slot. -/
theorem Moment.timer_after (moment : Moment) (slot : Slot) :
    (moment.timerEvent slot).Makes moment.state (moment.state.objects.timers (.caller slot))
      (moment.after.objects.timers (.caller slot)) := by
  obtain ⟨state, operation⟩ := moment
  cases accepted : (operation.perform state).answer.isOk with
  | false =>
    simp only [Moment.timerEvent, Moment.answer, Moment.effect, accepted, Bool.false_eq_true,
      ↓reduceIte]
    exact congrFun (timers_perform_of_not_isOk operation state accepted) _
  | true =>
    simp only [Moment.timerEvent, Moment.answer, Moment.effect, accepted, ↓reduceIte]
    cases operation with
    | errorIsSet | errorText | resetError | otherThread | setVariable | installLogger | options
    | initContext | context | clock | refuse =>
      exact congrFun (Operation.timers_perform _ state rfl) _
    | initTimer target source owner period callback body =>
      by_cases same : target = some slot
      · subst same
        cases source with
        | none =>
          obtain ⟨commit, outcome⟩ := State.isOk_respond_iff.mp accepted
          obtain ⟨_, _, _, absurd, _⟩ := Verdict.initTimer_eq_ok.mp outcome
          cases absurd
        | some clock =>
          simp only [Operation.timerEvent, ↓reduceIte]
          exact initTimer_makes accepted
      · have untouched : Operation.timerEvent slot
            (.initTimer target source owner period callback body) = .untouched := by
          unfold Operation.timerEvent
          split <;> simp_all
        rw [untouched]
        exact timers_of_other (initTimer_objects _ _ _ _ _ state) same
    | timer target request =>
      by_cases same : target = some slot
      · subst same
        simp only [Operation.timerEvent, ↓reduceIte]
        exact request.perform_makes _ state accepted
      · have untouched : Operation.timerEvent slot (.timer target request) = .untouched := by
          unfold Operation.timerEvent
          split <;> simp_all
        rw [untouched]
        exact timers_of_other (request.perform_objects _ state) same

theorem timers_after_untouched {slot : Slot} {state : State} (operations : List Operation)
    (quiet : ∀ record ∈ (state.moments operations).map Moment.record,
      timerEventOf slot record = .untouched) :
    (state.after operations).objects.timers (.caller slot) =
      state.objects.timers (.caller slot) := by
  induction operations generalizing state with
  | nil => rfl
  | cons operation rest ih =>
    have first := Moment.timer_after ⟨state, operation⟩ slot
    rw [show Moment.timerEvent ⟨state, operation⟩ slot = .untouched from
      quiet _ List.mem_cons_self] at first
    exact (ih fun record member => quiet record (List.mem_cons_of_mem _ member)).trans first

theorem timer_after_last {slot : Slot} {state : State} {operations : List Operation}
    {first later : List (Operation × Answer)} {last : Operation × Answer}
    (told : (state.moments operations).map Moment.record = first ++ last :: later)
    (quiet : ∀ record ∈ later, timerEventOf slot record = .untouched) :
    (timerEventOf slot last).Makes (state.after (first.map Prod.fst))
      ((state.after (first.map Prod.fst)).objects.timers (.caller slot))
      ((state.after operations).objects.timers (.caller slot)) := by
  obtain ⟨_, onwards⟩ := State.records_split told
  obtain ⟨same, behind⟩ := List.cons_eq_cons.mp onwards
  have asked : operations = first.map Prod.fst ++ last.1 :: later.map Prod.fst := by
    rw [← state.moments_map_operation operations, ← List.map_cons, ← List.map_append, ← told,
      List.map_map]
    rfl
  rw [behind] at quiet
  have made := Moment.timer_after ⟨state.after (first.map Prod.fst), last.1⟩ slot
  rw [asked, after_append, same]
  exact (timers_after_untouched _ quiet).symm ▸ made

end RosClient
