import RosClient.Proofs.Handle.Keeps
import RosClient.Proofs.Session.Basic

namespace RosClient

namespace Session

section

variable {α β : Type} {view : Objects → β} {action : Action α}

theorem respond_keeps (session : Session) (keeps : Keeps view action) (value : α → Value) :
    view (session.respond action value).2.state.objects = view session.state.objects := by
  rw [respond_snd]
  exact keeps session.state

theorem store_keeps (session : Session) (keeps : Keeps view action)
    (put : Session → α → Session) (puts : ∀ other result, (put other result).state = other.state) :
    view (session.store action put).2.state.objects = view session.state.objects := by
  have kept := keeps session.state
  rw [store_snd]
  cases ended : action session.state with
  | ok result after =>
    rw [ended] at kept
    simp only [puts]
    exact kept
  | error e after =>
    rw [ended] at kept
    exact kept

end

end Session

open Objects (Hides setOptions setContextAndId setClock setTimer)
open Session

section

variable {β : Type} {view : Objects → β}

theorem ContextRequest.perform_keeps
    (options : Hides view setOptions ContextHandle.transientOptions) (slot : Slot)
    {held : HeldContext} (hidden : Hides view setContextAndId held.handle)
    (session : Session) (request : ContextRequest) :
    view (request.perform slot held session).2.state.objects = view session.state.objects := by
  cases request with
  | init arguments domain =>
    exact session.respond_keeps (ContextHandle.init_keeps options hidden _ _) _
  | shutdown => exact session.respond_keeps (ContextHandle.shutdown_keeps hidden) _
  | dispose => exact session.store_keeps (ContextHandle.dispose_keeps hidden) _ fun _ _ => rfl
  | domainId => exact session.respond_keeps (ContextHandle.domain_keeps _) _
  | unparsed => exact session.respond_keeps (ContextHandle.unparsed_keeps _) _
  | isValid | instanceId | handle => rfl
  | roundTrip =>
    simp only [ContextRequest.perform]
    split <;> rfl

theorem makeContext_keeps {action : Action Handle} (keeps : Keeps view action) (session : Session)
    (slot : Slot) (owned : Bool) :
    view (session.makeContext slot owned action).2.state.objects = view session.state.objects := by
  unfold Session.makeContext
  split
  · rfl
  · exact session.store_keeps keeps _ fun _ _ => rfl

theorem dropContext_keeps {session : Session} {slot : Slot}
    (hidden : Hides view setContextAndId (session.heldContext slot).handle) :
    view (session.dropContext slot).state.objects = view session.state.objects := by
  unfold Session.heldContext at hidden
  unfold Session.dropContext
  split
  · next handle present =>
    rw [present] at hidden
    exact ContextHandle.release_keeps hidden session.state
  · rfl

theorem ContextStep.perform_keeps (view : Objects → β)
    (options : Hides view setOptions ContextHandle.transientOptions)
    {slot : Slot} (own : Hides view setContextAndId (some (.handle slot))) {session : Session}
    (hidden : Hides view setContextAndId (session.heldContext slot).handle) (step : ContextStep) :
    view (step.perform slot session).2.state.objects = view session.state.objects := by
  cases step with
  | create => exact makeContext_keeps (ContextHandle.create_keeps own) session slot false
  | new arguments domain =>
    exact makeContext_keeps (ContextHandle.new_keeps options own _ _) session slot true
  | newFromEnvironment arguments =>
    exact makeContext_keeps (ContextHandle.new_keeps options own _ _) session slot true
  | use request =>
    rw [← context_fst] at hidden
    have kept := request.perform_keeps options slot hidden (session.context slot).2
    rw [state_context] at kept
    exact kept
  | drop => exact dropContext_keeps hidden

theorem ClockRequest.perform_keeps {held : HeldClock}
    (kept : Verdict.KeptByOverrides view held.handle) (session : Session) (request : ClockRequest) :
    view (request.perform held session).2.state.objects = view session.state.objects := by
  have handleOf {clock : OwnedClock} (owned : held.owned? = some clock) :
      clock.handle = held.handle := by
    obtain ⟨_, _, rfl⟩ := Option.map_eq_some_iff.mp owned
    rfl
  cases request with
  | rawNow => exact session.respond_keeps (ClockHandle.now_keeps _) _
  | rawSet value => exact session.respond_keeps (ClockHandle.setOverride_keeps kept _) _
  | isOverrideEnabled => exact session.respond_keeps (ClockHandle.isOverrideEnabled_keeps _) _
  | switchOverride enabled =>
    exact session.respond_keeps (ClockHandle.switchOverride_keeps kept _) _
  | now =>
    simp only [ClockRequest.perform, Session.askOwned]
    split
    · exact session.respond_keeps (OwnedClock.now_keeps _) _
    · rfl
  | set time =>
    simp only [ClockRequest.perform, Session.askOwned]
    split
    · next clock owned =>
      rw [← handleOf owned] at kept
      split
      · exact session.respond_keeps (ClockHandle.setOverride_keeps kept _) _
      · rfl
    · rfl
  | type =>
    simp only [ClockRequest.perform, Session.askOwned]
    split <;> rfl
  | handle => rfl
  | roundTrip =>
    simp only [ClockRequest.perform]
    split <;> rfl

theorem makeClock_keeps {slot : Slot} (own : Hides view setClock (some (.handle slot)))
    (session : Session) (typeName : String) (owned : Bool) :
    view (session.makeClock slot typeName owned).2.state.objects = view session.state.objects := by
  unfold Session.makeClock
  split
  · rfl
  · split
    · rfl
    · exact session.store_keeps (ClockHandle.create_keeps own _) _ fun _ _ => rfl

theorem disposeClock_keeps {session : Session} {slot : Slot}
    (hidden : Hides view setClock (session.heldClock slot).handle) :
    view (session.disposeClock slot).2.state.objects = view session.state.objects := by
  rw [← clock_fst] at hidden
  have kept := (session.clock slot).2.store_keeps (ClockHandle.dispose_keeps hidden)
    (fun after handle => after.putClock slot { (session.clock slot).1 with handle })
    fun _ _ => rfl
  rw [state_clock] at kept
  exact kept

theorem dropClock_keeps {session : Session} {slot : Slot}
    (hidden : Hides view setClock (session.heldClock slot).handle) :
    view (session.dropClock slot).state.objects = view session.state.objects := by
  unfold Session.heldClock at hidden
  unfold Session.dropClock
  split
  · next clock found =>
    obtain ⟨held, present, owned⟩ := Option.bind_eq_some_iff.mp found
    obtain ⟨type, _, rfl⟩ := Option.map_eq_some_iff.mp owned
    rw [present] at hidden
    exact OwnedClock.release_keeps hidden session.state
  · rfl

theorem ClockStep.perform_keeps (view : Objects → β) {slot : Slot}
    (own : Hides view setClock (some (.handle slot))) {session : Session}
    (hidden : Hides view setClock (session.heldClock slot).handle)
    (step : ClockStep) :
    view (step.perform slot session).2.state.objects = view session.state.objects := by
  cases step with
  | create typeName => exact makeClock_keeps own session typeName false
  | new typeName => exact makeClock_keeps own session typeName true
  | use request =>
    rw [← clock_fst] at hidden
    have kept := request.perform_keeps (Verdict.keptByOverrides_of_hides hidden)
      (session.clock slot).2
    rw [state_clock] at kept
    exact kept
  | dispose =>
    simp only [ClockStep.perform]
    split
    · rfl
    · exact disposeClock_keeps hidden
  | drop =>
    simp only [ClockStep.perform]
    split
    · rfl
    · exact dropClock_keeps hidden

theorem TimerRequest.perform_keeps {place : Place} (hidden : Hides view setTimer (some place))
    (session : Session) (request : TimerRequest) :
    view (request.perform place session).2.state.objects = view session.state.objects := by
  cases request with
  | isReady => exact session.respond_keeps (keeps_attempt (Verdict.timerIsReady_looks _).keeps) _
  | isCanceled =>
    exact session.respond_keeps (keeps_attempt (Verdict.timerIsCanceled_looks _).keeps) _
  | reset => exact session.respond_keeps (keeps_attempt (Verdict.resetTimer_keeps hidden)) _
  | cancel => exact session.respond_keeps (keeps_attempt (Verdict.cancelTimer_keeps hidden)) _
  | untilNextCall =>
    exact session.respond_keeps (keeps_attempt (Verdict.timeUntilNextCall_looks _).keeps) _
  | sinceLastCall =>
    exact session.respond_keeps (keeps_attempt (Verdict.timeSinceLastCall_looks _).keeps) _
  | period => exact session.respond_keeps (keeps_attempt (Verdict.timerPeriod_looks _).keeps) _
  | exchangePeriod next =>
    exact session.respond_keeps (TimerHandle.exchangePeriod_keeps hidden _) _
  | setPeriod next => exact session.respond_keeps (TimerHandle.setPeriod_keeps hidden _) _
  | call =>
    have kept : view (session.act (TimerHandle.call place)).2.state.objects =
        view session.state.objects := by
      rw [state_act]
      exact TimerHandle.call_keeps hidden session.state
    simp only [TimerRequest.perform]
    split
    · next ended =>
      rw [ended] at kept
      exact kept
    · next ended =>
      rw [ended] at kept
      exact kept

theorem storeTimer_keeps {action : Action Handle} (keeps : Keeps view action) (session : Session)
    (slot clock : Slot) (owned : Bool) :
    view (session.storeTimer slot clock owned action).2.state.objects =
      view session.state.objects :=
  session.store_keeps keeps (fun after handle => after.putTimer slot ⟨handle, some clock, owned⟩)
    fun _ _ => rfl

theorem makeTimer_keeps {slot : Slot} (own : Hides view setTimer (some (.handle slot)))
    (session : Session) (clock context : Slot) (period : Nanos) :
    view (session.makeTimer slot clock context period).2.state.objects =
      view session.state.objects := by
  unfold Session.makeTimer
  split
  · rfl
  · have kept := storeTimer_keeps (TimerHandle.create_keeps own
      ((session.context context).2.clock clock).1.handle (session.context context).1.handle period
      none) ((session.context context).2.clock clock).2 slot clock false
    rw [state_clock, state_context] at kept
    exact kept

theorem makeOwnedTimer_keeps {slot : Slot} (own : Hides view setTimer (some (.handle slot)))
    (session : Session) (clock context : Slot) (period : Nanos) (function : Option Bool) :
    view (session.makeOwnedTimer slot clock context period function).2.state.objects =
      view session.state.objects := by
  unfold Session.makeOwnedTimer
  split
  · rfl
  · simp only
    split
    · have kept := storeTimer_keeps (TimerHandle.create_keeps own
        ((session.context context).2.clock clock).1.handle (session.context context).1.handle period
        (function.map .function)) ((session.context context).2.clock clock).2 slot clock true
      rw [state_clock, state_context] at kept
      split <;> exact kept
    · simp only [Session.refuse, state_clock, state_context]

theorem disposeTimer_keeps {session : Session} {slot : Slot}
    (hidden : Hides view setTimer (session.heldTimer slot).handle) :
    view (session.disposeTimer slot).2.state.objects = view session.state.objects := by
  rw [← timer_fst] at hidden
  have kept := (session.timer slot).2.store_keeps (TimerHandle.dispose_keeps hidden)
    (fun after handle => after.putTimer slot { (session.timer slot).1 with handle }) fun _ _ => rfl
  rw [state_timer] at kept
  exact kept

theorem dropTimer_keeps {session : Session} {slot : Slot}
    (hidden : Hides view setTimer (session.heldTimer slot).handle) :
    view (session.dropTimer slot).2.state.objects = view session.state.objects := by
  unfold Session.heldTimer at hidden
  unfold Session.dropTimer
  split
  · rfl
  · next held present =>
    rw [present] at hidden
    cases owned : held.owned with
    | false => rfl
    | true => exact TimerHandle.release_keeps hidden session.state

theorem TimerStep.perform_keeps (view : Objects → β) {slot : Slot}
    (own : Hides view setTimer (some (.handle slot))) {session : Session}
    (hidden : Hides view setTimer (session.heldTimer slot).handle)
    (step : TimerStep) :
    view (step.perform slot session).2.state.objects = view session.state.objects := by
  cases step with
  | create clock context period => exact makeTimer_keeps own session clock context period
  | new clock context period function =>
    exact makeOwnedTimer_keeps own session clock context period function
  | use request =>
    rw [← timer_fst] at hidden
    simp only [TimerStep.perform]
    split
    · next place here =>
      rw [here] at hidden
      rw [request.perform_keeps hidden, state_timer]
    · rw [state_timer]
  | hasCallback =>
    simp only [TimerStep.perform]
    split
    · exact congrArg (fun state => view state.objects) (state_timer session slot)
    · exact congrArg (fun state => view state.objects) (state_timer session slot)
  | handle => exact congrArg (fun state => view state.objects) (state_timer session slot)
  | dispose => exact disposeTimer_keeps hidden
  | drop => exact dropTimer_keeps hidden

theorem SourceRequest.perform_keeps {source : TimeSource} {session : Session}
    {request : SourceRequest} (slot : Slot)
    (kept : ∀ entry ∈ source.clocks, Verdict.KeptByOverrides view entry.2.handle)
    (attached : ∀ clock owned, request = .attach clock → session.ownedClock? clock = some owned →
      Verdict.KeptByOverrides view owned.handle) :
    view (request.perform slot source session).2.state.objects = view session.state.objects := by
  cases request with
  | isActive | clockCount | last => rfl
  | setActive active =>
    simp only [SourceRequest.perform]
    split
    · rfl
    · have keeps : Keeps view (source.withActive active).publishActive :=
        TimeSource.publishActive_keeps kept
      exact Session.respond_keeps _ keeps _
  | update time =>
    simp only [SourceRequest.perform]
    split
    · rfl
    · next time _ =>
      have keeps : Keeps view (source.withTime time).publishTime :=
        TimeSource.publishTime_keeps kept
      exact Session.respond_keeps _ keeps _
  | attach clock =>
    simp only [SourceRequest.perform]
    split
    · rfl
    · next owned found =>
      exact session.store_keeps (TimeSource.attach_keeps (attached clock owned rfl found) clock) _
        fun _ _ => rfl
  | detach clock =>
    simp only [SourceRequest.perform]
    split <;> rfl

theorem SourceStep.perform_keeps (view : Objects → β) {step : SourceStep} (slot : Slot)
    {session : Session}
    (kept : ∀ source, session.sources.get? slot = some source →
      ∀ entry ∈ source.clocks, Verdict.KeptByOverrides view entry.2.handle)
    (attached : ∀ clock owned, step = .use (.attach clock) →
      session.ownedClock? clock = some owned → Verdict.KeptByOverrides view owned.handle) :
    view (step.perform slot session).2.state.objects = view session.state.objects := by
  have made (active : Bool) :
      view (session.makeSource slot active).2.state.objects = view session.state.objects := by
    unfold Session.makeSource
    split <;> rfl
  cases step with
  | new active => exact made active
  | newFromEnvironment => exact made _
  | use request =>
    simp only [SourceStep.perform]
    split
    · next source found =>
      refine request.perform_keeps slot (kept source found) ?_
      rintro clock owned rfl
      exact attached clock owned rfl
    · rfl
  | drop => rfl

end

end RosClient
