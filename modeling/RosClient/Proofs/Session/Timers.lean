import RosClient.Proofs.Session.Sources
import RosClient.Proofs.Timer.Instant

namespace RosClient

/-- What a step does with the timer in a slot. -/
inductive TimerFate (before after : Session) (slot : Slot) : Prop where
  | kept (held : after.heldTimer slot = before.heldTimer slot)
    (lasting : ∀ timer, before.state.objects.timers (.handle slot) = some timer →
      ∃ later, after.state.objects.timers (.handle slot) = some later ∧
        later.clock = timer.clock)
  | emptied (empty : (after.heldTimer slot).handle = none)
  | made (clock : Slot) (timer : Timer)
    (source : (before.heldClock clock).handle = some timer.clock)
    (readable : ∃ now, before.state.readClock timer.clock = .ok now)
    (here : (after.heldTimer slot).handle = some (.handle slot))
    (named : (after.heldTimer slot).clock = some clock)
    (present : after.state.objects.timers (.handle slot) = some timer)
    (untouched : after.clockIn clock = before.clockIn clock)

/-- Whether an event leaves the timer there is. -/
def TimerEvent.isLasting : TimerEvent → Bool
  | untouched | call | reset | cancel | exchange _ => true
  | init _ _ _ | fini => false

theorem TimerEvent.HappensAt.lasting {place : Place} {before after : Session} {event : TimerEvent}
    (happens : event.HappensAt place before after) (lasts : event.isLasting = true)
    {timer : Timer} (present : before.state.objects.timers place = some timer) :
    ∃ later, after.state.objects.timers place = some later ∧ later.clock = timer.clock := by
  unfold HappensAt at happens
  rw [present] at happens
  cases event with
  | untouched => exact ⟨timer, happens, rfl⟩
  | call =>
    obtain ⟨found, same, _, _, _, _, _, _, made⟩ := happens
    cases same
    exact ⟨_, made, rfl⟩
  | reset =>
    obtain ⟨found, same, _, _, made⟩ := happens
    cases same
    exact ⟨_, made, rfl⟩
  | cancel =>
    obtain ⟨found, same, made⟩ := happens
    cases same
    exact ⟨_, made, rfl⟩
  | exchange =>
    obtain ⟨found, same, _, made⟩ := happens
    cases same
    exact ⟨_, made, rfl⟩
  | init | fini => cases lasts

theorem TimerRequest.isLasting_event (request : TimerRequest) :
    request.toCall.event.isLasting = true := by
  cases request <;> rfl

theorem timers_after (operations : List Operation) (state : State) (slot : Slot) :
    (state.after operations).objects.timers (.handle slot) =
      state.objects.timers (.handle slot) := by
  induction operations generalizing state with
  | nil => rfl
  | cons operation rest ih =>
    exact (ih _).trans (timers_perform_of_foreign operation state fun _ => Place.noConfusion)

theorem heldTimer_putTimer_self (session : Session) (slot : Slot) (held : HeldTimer) :
    (session.putTimer slot held).heldTimer slot = held := by
  unfold Session.heldTimer Session.putTimer
  rw [Slots.get?_put_self]
  rfl

theorem heldTimer_putTimer_of_ne (session : Session) {slot other : Slot} (held : HeldTimer)
    (apart : slot ≠ other) :
    (session.putTimer other held).heldTimer slot = session.heldTimer slot := by
  unfold Session.heldTimer Session.putTimer
  rw [Slots.get?_put_of_ne _ _ apart]

namespace Session

/-- Every timer in a slot is at the place of the slot and runs on a clock that can be read. -/
def HasRunningTimers (session : Session) : Prop :=
  ∀ slot place, (session.heldTimer slot).handle = some place →
    place = .handle slot ∧ ∃ timer clock, session.state.objects.timers place = some timer ∧
      timer.clock = .handle clock ∧ (session.heldTimer slot).clock = some clock ∧
      ∃ found, session.clockIn clock = some found ∧ found.type ≠ .uninitialized

theorem start_hasRunningTimers (depth : Nat) (environment : Environment)
    (readings : Nat → RealTime) :
    (start depth environment readings).HasRunningTimers :=
  fun _ _ => nofun

end Session

open Session

section

variable {session : Session} {slot : Slot}

theorem TimerStep.clockIn_perform (session : Session) (target clock : Slot) (step : TimerStep) :
    (step.perform target session).2.clockIn clock = session.clockIn clock := by
  have held : (step.perform target session).2.heldClock = session.heldClock :=
    (Step.timer target step).heldClock_perform session rfl
  have clocks : (step.perform target session).2.state.objects.clocks =
      session.state.objects.clocks :=
    step.perform_keeps (·.clocks) (fun _ _ _ _ => rfl) (fun _ _ _ _ => rfl)
  rw [Session.clockIn, held, clocks]
  rfl

theorem storeTimer_fate {looked : Session} (unused : session.timers.get? slot = none)
    (timers : looked.timers = session.timers) (state : looked.state = session.state)
    {clock : Slot} (owned : Bool) (context : Handle) (period : Nanos) (callback : Option Callback)
    {after : Session}
    (stored : (looked.storeTimer slot clock owned (TimerHandle.create slot
      (session.heldClock clock).handle context period callback)).2 = after)
    (untouched : after.clockIn clock = session.clockIn clock) :
    TimerFate session after slot := by
  subst stored
  unfold Session.storeTimer at untouched ⊢
  rw [store_snd, state] at untouched ⊢
  rcases TimerHandle.create_makes slot (session.heldClock clock).handle context period callback
    session.state with ⟨source, left, there, ended, _, _, now, read, made⟩ | ⟨e, left, ended, _⟩
  · rw [ended] at untouched ⊢
    refine .made clock ⟨source, callback, .start period now⟩ there ⟨now, read⟩ ?_ ?_ made untouched
    · rw [heldTimer_putTimer_self]
    · rw [heldTimer_putTimer_self]
  · rw [ended]
    apply TimerFate.emptied
    unfold Session.heldTimer
    rw [timers, unused]
    rfl

theorem looked_timers (session : Session) (context clock : Slot) :
    ((session.context context).2.clock clock).2.timers = session.timers := by
  rw [timers_clock, timers_context]

theorem makeTimer_fate (clock context : Slot) (period : Nanos) :
    TimerFate session (session.makeTimer slot clock context period).2 slot := by
  have untouched := (TimerStep.create clock context period).clockIn_perform session slot clock
  simp only [TimerStep.perform] at untouched
  unfold Session.makeTimer at untouched ⊢
  split
  · exact .kept rfl fun timer present => ⟨timer, present, rfl⟩
  · next free =>
    rw [if_neg free] at untouched
    rw [Option.not_isSome_iff_eq_none] at free
    simp only [clock_context_fst] at untouched ⊢
    exact storeTimer_fate free (looked_timers session context clock)
      (state_clock_context session context clock) false _ period none rfl untouched

theorem makeOwnedTimer_fate (clock context : Slot) (period : Nanos) (function : Option Bool) :
    TimerFate session (session.makeOwnedTimer slot clock context period function).2 slot := by
  have untouched :=
    (TimerStep.new clock context period function).clockIn_perform session slot clock
  simp only [TimerStep.perform] at untouched
  rw [Session.makeOwnedTimer_eq] at untouched ⊢
  split
  · exact .kept rfl fun timer present => ⟨timer, present, rfl⟩
  · next free =>
    rw [if_neg free] at untouched
    rw [Option.not_isSome_iff_eq_none] at free
    simp only [clock_context_fst] at untouched ⊢
    split
    · next both =>
      rw [if_pos both] at untouched
      exact storeTimer_fate free (looked_timers session context clock)
        (state_clock_context session context clock) true _ period _ rfl untouched
    · refine .emptied ?_
      simp only [Session.refuse, Session.heldTimer, looked_timers, free]
      rfl

theorem disposeTimer_fate : TimerFate session (session.disposeTimer slot).2 slot := by
  apply TimerFate.emptied
  change (((session.timer slot).2.store (TimerHandle.dispose (session.timer slot).1.handle)
    _).2.heldTimer slot).handle = none
  rw [store_snd]
  cases (session.timer slot).1.handle with
  | none =>
    have ended : TimerHandle.dispose none (session.timer slot).2.state = .ok none _ := rfl
    rw [ended, heldTimer_putTimer_self]
  | some place =>
    obtain ⟨after, ended, _⟩ := TimerHandle.dispose_some place (session.timer slot).2.state
    rw [ended, heldTimer_putTimer_self]

theorem dropTimer_fate : TimerFate session (session.dropTimer slot).2 slot := by
  apply TimerFate.emptied
  unfold Session.dropTimer Session.heldTimer
  cases present : session.timers.get? slot with
  | none =>
    simp only [present]
    rfl
  | some held =>
    simp only [Slots.get?_erase_self]
    rfl

theorem useTimer_fate (running : session.HasRunningTimers) (request : TimerRequest) :
    TimerFate session ((TimerStep.use request).perform slot session).2 slot := by
  rw [TimerStep.perform_use, timer_fst]
  cases here : (session.heldTimer slot).handle with
  | none =>
    refine .emptied ?_
    rw [Option.elim_none, heldTimer_timer, here]
  | some place =>
    obtain ⟨rfl, _⟩ := running slot place here
    rw [Option.elim_some]
    refine .kept ?_ ?_
    · have framed := request.perform_frame (·.heldTimer slot) (fun _ _ => rfl) (.handle slot)
        (session.timer slot).2
      exact framed.trans (congrFun (heldTimer_timer session slot) slot)
    · intro timer present
      have happens : ((TimerStep.use request).timerEvent session slot (.handle slot)).HappensAt _ _
          ((TimerStep.use request).perform slot session).2 := useTimer_happens request
      rw [TimerStep.perform_use, timer_fst, here] at happens
      refine happens.lasting ?_ present
      simp only [TimerStep.timerEvent]
      split
      · exact request.isLasting_event
      · rfl

theorem TimerStep.heldTimer_perform_of_ne (session : Session) {target : Slot}
    (apart : slot ≠ target) (step : TimerStep) :
    (step.perform target session).2.heldTimer slot = session.heldTimer slot := by
  refine step.perform_frame (·.heldTimer slot) (fun _ _ => rfl)
    (fun session held => heldTimer_putTimer_of_ne session held apart) ?_ ?_ ?_ session
  · intro session
    unfold Session.heldTimer
    rw [Slots.get?_erase_of_ne _ apart]
  · intro session context
    unfold Session.heldTimer
    rw [timers_context]
  · intro session clock
    unfold Session.heldTimer
    rw [timers_clock]

theorem TimerStep.fate_of_ne (running : session.HasRunningTimers) {target : Slot}
    (apart : slot ≠ target) (step : TimerStep) :
    TimerFate session (step.perform target session).2 slot := by
  have held := step.heldTimer_perform_of_ne session apart
  have foreign : (session.heldTimer target).handle ≠ some (.handle slot) := by
    intro here
    cases (running target _ here).1
    exact apart rfl
  have kept : (step.perform target session).2.state.objects.timers (.handle slot) =
      session.state.objects.timers (.handle slot) := by
    refine step.perform_keeps (·.timers (.handle slot)) ?_ (Objects.hides_timer_of_ne foreign)
    apply hides_timer_of_place_ne
    intro same
    cases same
    exact apart rfl
  exact .kept held fun timer present => ⟨timer, kept.trans present, rfl⟩

theorem TimerStep.timerFate (running : session.HasRunningTimers) (target : Slot)
    (step : TimerStep) : TimerFate session (step.perform target session).2 slot := by
  by_cases same : target = slot
  · subst same
    have looked : TimerFate session (session.timer target).2 target := by
      refine .kept (congrFun (heldTimer_timer session target) target) ?_
      intro timer present
      rw [state_timer]
      exact ⟨timer, present, rfl⟩
    cases step with
    | create clock context period => exact makeTimer_fate clock context period
    | new clock context period function => exact makeOwnedTimer_fate clock context period function
    | use request => exact useTimer_fate running request
    | hasCallback =>
      simp only [TimerStep.perform]
      split <;> exact looked
    | handle => exact looked
    | dispose => exact disposeTimer_fate
    | drop => exact dropTimer_fate
  · exact TimerStep.fate_of_ne running (Ne.symm same) step

theorem timerFate_of_same {after : Session} (held : after.heldTimer = session.heldTimer)
    (same : after.state.objects.timers (.handle slot) =
      session.state.objects.timers (.handle slot)) : TimerFate session after slot :=
  .kept (congrFun held slot) fun timer present => ⟨timer, same.trans present, rfl⟩

/-- What a step does with the timer in a slot. -/
theorem Step.timerFate (running : session.HasRunningTimers) (step : Step) (slot : Slot) :
    TimerFate session (step.perform session).2 slot := by
  cases step with
  | operation asked =>
    refine timerFate_of_same rfl ?_
    have same : (session.runOperation asked).2.state = _ :=
      run_state session.depth asked session.state
    exact (congrArg (·.objects.timers (.handle slot)) same).trans (timers_after _ _ slot)
  | context target step =>
    exact timerFate_of_same ((Step.context target step).heldTimer_perform session rfl)
      (step.perform_keeps (·.timers (.handle slot)) (fun _ _ _ _ => rfl) (fun _ _ _ _ => rfl)
        (fun _ _ _ _ => rfl))
  | clock target step =>
    exact timerFate_of_same ((Step.clock target step).heldTimer_perform session rfl)
      (step.perform_keeps (·.timers (.handle slot)) (fun _ _ _ _ => rfl) (fun _ _ _ _ => rfl))
  | timer target step => exact step.timerFate running target
  | source target step =>
    have kept (clock : Handle) : Verdict.KeptByOverrides (·.timers (.handle slot)) clock :=
      Verdict.keptByOverrides_of_hides fun _ _ _ _ => rfl
    exact timerFate_of_same ((Step.source target step).heldTimer_perform session rfl)
      (step.perform_keeps (·.timers (.handle slot)) target (fun _ _ _ _ => kept _)
        fun _ _ _ _ => kept _)
  | startLogging => exact timerFate_of_same rfl rfl

theorem isClockInUse_of_heldTimer {clock : Slot} {place : Place}
    (here : (session.heldTimer slot).handle = some place)
    (named : (session.heldTimer slot).clock = some clock) :
    session.isClockInUse clock = true := by
  unfold Session.heldTimer at here named
  cases present : session.timers.get? slot with
  | none =>
    rw [present] at here
    cases here
  | some held =>
    rw [present] at here named
    simp only [Option.getD_some] at here named
    have passes : (held.handle.isSome && decide (held.clock = some clock)) = true := by
      rw [here, named]
      simp
    unfold Session.isClockInUse
    rw [any_of_get? present passes, Bool.true_or]

theorem Clock.type_rewrite (change : Override → Override) (clock : Clock) :
    (clock.rewrite change).type = clock.type := by
  unfold Clock.rewrite
  split <;> rfl

theorem clockIn_of_isClockInUse (sound : session.HasSoundClocks) (step : Step) {clock : Slot}
    (used : session.isClockInUse clock = true) {found : Clock}
    (there : session.clockIn clock = some found) :
    ∃ later, (step.perform session).2.clockIn clock = some later ∧ later.type = found.type := by
  cases step.clockFate sound clock with
  | kept held rewritten =>
    rw [there] at rewritten
    exact ⟨_, rewritten, found.type_rewrite _⟩
  | released spared =>
    rw [spared] at used
    cases used
  | made type unused =>
    rw [Session.clockIn, Session.heldClock, unused] at there
    cases there

theorem Clock.type_of_read {clock : Clock} {real : RealTime} {now : Nanos}
    (read : clock.read real = .ok now) : clock.type ≠ .uninitialized := by
  intro unread
  simp [Clock.read, Clock.isValid, unread] at read

theorem Step.perform_running (sound : session.HasSoundClocks) (running : session.HasRunningTimers)
    (step : Step) : (step.perform session).2.HasRunningTimers := by
  intro slot place here
  cases step.timerFate running slot with
  | kept held lasting =>
    rw [held] at here ⊢
    obtain ⟨rfl, timer, clock, present, on, named, found, there, readable⟩ :=
      running slot place here
    obtain ⟨later, lives, same⟩ := lasting timer present
    have used := isClockInUse_of_heldTimer here named
    obtain ⟨left, still, typed⟩ := clockIn_of_isClockInUse sound step used there
    exact ⟨rfl, later, clock, lives, same.trans on, named, left, still, by rwa [typed]⟩
  | emptied empty =>
    rw [empty] at here
    cases here
  | made clock timer source readable there named present untouched =>
    obtain ⟨now, read⟩ := readable
    have on := sound.place clock timer.clock source
    have found : session.clockIn clock = some (session.state.objects.clocks timer.clock) := by
      rw [Session.clockIn, source]
      rfl
    rw [there] at here
    cases here
    exact ⟨rfl, timer, clock, present, on, named, _, untouched.trans found,
      Clock.type_of_read read⟩

/-- In a session that steps lead to, every timer in a slot runs on a clock that can be read. -/
theorem Session.HasRunningTimers.after (sound : session.HasSoundClocks)
    (running : session.HasRunningTimers) (steps : List Step) :
    (session.after steps).HasRunningTimers := by
  induction steps generalizing session with
  | nil => exact running
  | cons step rest ih => exact ih (step.perform_sound sound) (step.perform_running sound running)

end

end RosClient
