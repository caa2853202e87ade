import RosClient.Proofs.Diagnostic.Session

namespace RosClient

/-- Whether a step is one on handles, and no operation of the status level. -/
def Step.isOnHandles : Step → Bool
  | operation _ => false
  | _ => true

/-- The tasks for which a request makes calls that may be refused. -/
def ContextRequest.tasks : ContextRequest → List Task
  | init .. => ContextHandle.initTasks
  | shutdown => [.shutdownContext]
  | dispose => [.finiContext]
  | domainId => [.contextDomain]
  | unparsed => [.countUnparsed, .unparsedArgument]
  | isValid | instanceId | handle | roundTrip => []

def ContextStep.tasks : ContextStep → List Task
  | new .. | newFromEnvironment _ => ContextHandle.initTasks
  | use request => request.tasks
  | create | drop => []

def ClockRequest.tasks : ClockRequest → List Task
  | rawNow | now => [.clockNow]
  | rawSet _ | set _ => [.setOverride]
  | isOverrideEnabled => [.queryOverride]
  | switchOverride _ => [.switchOverride]
  | type | handle | roundTrip => []

def ClockStep.tasks : ClockStep → List Task
  | create _ | new _ => [.initClock]
  | use request => request.tasks
  | dispose => [.finiClock]
  | drop => []

def TimerRequest.tasks : TimerRequest → List Task
  | isReady => [.timerIsReady]
  | isCanceled => [.timerIsCanceled]
  | reset => [.resetTimer]
  | cancel => [.cancelTimer]
  | untilNextCall => [.untilNextCall]
  | sinceLastCall => [.sinceLastCall]
  | period => [.timerPeriod]
  | exchangePeriod _ | setPeriod _ => [.exchangePeriod]
  | call => [.callTimer]

def TimerStep.tasks : TimerStep → List Task
  | create .. | new .. => [.initTimer]
  | use request => request.tasks
  | dispose => [.finiTimer]
  | hasCallback | handle | drop => []

def SourceRequest.tasks : SourceRequest → List Task
  | setActive _ => [.switchOverride]
  | update _ => [.setOverride]
  | attach _ => [.setOverride, .switchOverride]
  | isActive | clockCount | last | detach _ => []

def SourceStep.tasks : SourceStep → List Task
  | use request => request.tasks
  | new _ | newFromEnvironment | drop => []

/-- The tasks for which a step makes calls that may be refused. A step that drops an object has
none. -/
def Step.tasks : Step → List Task
  | context _ step => step.tasks
  | clock _ step => step.tasks
  | timer _ step => step.tasks
  | source _ step => step.tasks
  | operation _ | startLogging => []

section

variable {session : Session}

theorem ContextRequest.perform_clean (slot : Slot) (held : HeldContext)
    (request : ContextRequest) :
    IsClean request.tasks session fun session => request.perform slot held session := by
  cases request with
  | init arguments domain => exact isClean_respond (ContextHandle.init_hygienic _ _ _) _
  | shutdown => exact isClean_respond (ContextHandle.shutdown_hygienic _) _
  | dispose =>
    exact isClean_respondStore (ContextHandle.dispose_hygienic _) (fun _ _ => rfl)
      fun _ _ _ alike => alike.putContext slot _
  | isValid =>
    exact isClean_observe fun other alike =>
      congrArg Value.flag (ContextHandle.isValid_alike held.handle _ _ alike.state)
  | instanceId =>
    exact isClean_observe fun other alike =>
      congrArg (fun objects => Value.count (Objects.contextId objects held.handle))
        alike.state.objects
  | domainId => exact isClean_respond (ContextHandle.domain_hygienic _) _
  | unparsed => exact isClean_respond (ContextHandle.unparsed_hygienic _) _
  | handle => exact isClean_still rfl fun _ _ => rfl
  | roundTrip =>
    exact isClean_choice (fun _ _ => rfl) (isClean_refuse _) (isClean_still rfl fun _ _ => rfl)

theorem isClean_makeContext {tasks : List Task} (slot : Slot) (owned : Bool)
    {action : Action Handle} (hygienic : Hygienic tasks action) :
    IsClean tasks session (·.makeContext slot owned action) := by
  refine isClean_choice (fun other alike => by rw [alike.contexts]) (isClean_refuse _) ?_
  exact isClean_respondStore hygienic (fun _ _ => rfl) fun _ _ _ alike => alike.putContext slot _

theorem isClean_dropContext {tasks : List Task} (slot : Slot) :
    IsClean tasks session fun session => (.done, session.dropContext slot) := by
  refine isClean_calm rfl ?_ fun other alike => ⟨rfl, ?_⟩
  · unfold Session.dropContext
    split
    · exact ContextHandle.release_untroubled _ _
    · exact State.Untroubled.refl _
  · unfold Session.dropContext
    rw [alike.contexts]
    split
    · exact ⟨ContextHandle.release_alike _ alike.state, rfl, alike.clocks, alike.timers,
        alike.sources⟩
    · exact ⟨alike.state, congrArg (·.erase slot) alike.contexts, alike.clocks, alike.timers,
        alike.sources⟩

theorem ContextStep.perform_clean (slot : Slot) (step : ContextStep) :
    IsClean step.tasks session fun session => step.perform slot session := by
  cases step with
  | create => exact isClean_makeContext slot false (ContextHandle.create_hygienic slot)
  | new arguments domain =>
    exact isClean_makeContext slot true (ContextHandle.new_hygienic slot arguments domain)
  | newFromEnvironment arguments =>
    have hygienic := ContextHandle.new_hygienic slot arguments
      (Configuration.fromEnvironment session.state.environment).domainId
    refine ⟨(isClean_makeContext slot true hygienic).ends, fun other alike => ?_⟩
    simp only [ContextStep.perform]
    rw [← alike.state.environment]
    exact (isClean_makeContext slot true hygienic).blind other alike
  | use request =>
    exact IsClean.behind (Session.isLook_context slot)
      (fun held session => request.perform slot held session) (request.perform_clean slot _)
  | drop => exact isClean_dropContext slot

theorem isClean_askOwned {tasks : List Task} {held : HeldClock}
    {ask : OwnedClock → Session → StepAnswer × Session}
    (clean : ∀ clock, IsClean tasks session (ask clock)) :
    IsClean tasks session (·.askOwned held ask) := by
  unfold Session.askOwned
  cases held.owned? with
  | none => exact isClean_refuse _
  | some clock => exact clean clock

theorem ClockRequest.perform_clean (held : HeldClock) (request : ClockRequest) :
    IsClean request.tasks session fun session => request.perform held session := by
  cases request with
  | rawNow => exact isClean_respond (ClockHandle.now_hygienic _) _
  | rawSet value => exact isClean_respond (ClockHandle.setOverride_hygienic _ _) _
  | isOverrideEnabled => exact isClean_respond (ClockHandle.isOverrideEnabled_hygienic _) _
  | switchOverride enabled => exact isClean_respond (ClockHandle.switchOverride_hygienic _ _) _
  | now => exact isClean_askOwned fun clock => isClean_respond clock.now_hygienic _
  | set time =>
    refine isClean_askOwned fun clock => ?_
    cases read : time.read with
    | ok time => exact isClean_respond (ClockHandle.setOverride_hygienic _ _) _
    | error e => exact isClean_outcome (TimeSpec.read_error read)
  | type => exact isClean_askOwned fun clock => isClean_observe fun _ _ => rfl
  | handle => exact isClean_still rfl fun _ _ => rfl
  | roundTrip =>
    exact isClean_choice (fun _ _ => rfl) (isClean_refuse _) (isClean_still rfl fun _ _ => rfl)

theorem isClean_makeClock (slot : Slot) (typeName : String) (owned : Bool) :
    IsClean [.initClock] session (·.makeClock slot typeName owned) := by
  refine isClean_choice (fun other alike => by rw [alike.clocks]) (isClean_refuse _) ?_
  cases named : ClockType.named typeName with
  | error e =>
    exact isClean_outcome (ClockType.named_error named)
  | ok type =>
    exact isClean_respondStore (ClockHandle.create_hygienic slot type) (fun _ _ => rfl)
      fun _ _ _ alike => alike.putClock slot _

theorem Session.Alike.isClockInUse_eq {first second : Session} (alike : first.Alike second)
    (slot : Slot) : first.isClockInUse slot = second.isClockInUse slot := by
  unfold Session.isClockInUse
  rw [alike.timers, alike.sources]

theorem isClean_dropClock {tasks : List Task} (live : session.HasLiveClocks) (slot : Slot) :
    IsClean tasks session fun session => (.done, session.dropClock slot) := by
  refine isClean_calm rfl ?_ fun other alike => ⟨rfl, ?_⟩
  · unfold Session.dropClock
    split
    · next clock found =>
      obtain ⟨held, present, owned⟩ := Option.bind_eq_some_iff.mp found
      obtain ⟨type, _, rfl⟩ := Option.map_eq_some_iff.mp owned
      obtain ⟨after, ended, _⟩ := live.dispose present
      have quiet := (ClockHandle.dispose_hygienic held.handle).ends session.state
      rw [ended] at quiet
      simp only [OwnedClock.release, release_of_ok ended]
      exact quiet
    · exact State.Untroubled.refl _
  · unfold Session.dropClock
    rw [alike.clocks]
    split
    · exact ⟨alike_release (ClockHandle.dispose_hygienic _) alike.state _, alike.contexts, rfl,
        alike.timers, alike.sources⟩
    · exact ⟨alike.state, alike.contexts, congrArg (·.erase slot) alike.clocks, alike.timers,
        alike.sources⟩

theorem ClockStep.perform_clean (live : session.HasLiveClocks) (slot : Slot) (step : ClockStep) :
    IsClean step.tasks session fun session => step.perform slot session := by
  have inUse := fun other (alike : session.Alike other) => alike.isClockInUse_eq slot
  cases step with
  | create typeName => exact isClean_makeClock slot typeName false
  | new typeName => exact isClean_makeClock slot typeName true
  | use request =>
    exact IsClean.behind (Session.isLook_clock slot)
      (fun held session => request.perform held session) (request.perform_clean _)
  | dispose =>
    refine isClean_choice inUse (isClean_refuse _) ?_
    refine IsClean.behind (Session.isLook_clock slot) (fun held session =>
      session.respondStore (ClockHandle.dispose held.handle) fun after handle =>
        after.putClock slot { held with handle }) ?_
    exact isClean_respondStore (ClockHandle.dispose_hygienic _) (fun _ _ => rfl)
      fun _ _ _ alike => alike.putClock slot _
  | drop => exact isClean_choice inUse (isClean_refuse _) (isClean_dropClock live slot)

theorem TimerRequest.perform_clean (place : Place) (request : TimerRequest) :
    IsClean request.tasks session fun session => request.perform place session := by
  cases request with
  | isReady => exact isClean_respond (TimerHandle.isReady_hygienic _) _
  | isCanceled => exact isClean_respond (TimerHandle.isCanceled_hygienic _) _
  | reset => exact isClean_respond (TimerHandle.reset_hygienic _) _
  | cancel => exact isClean_respond (TimerHandle.cancel_hygienic _) _
  | untilNextCall => exact isClean_respond (TimerHandle.untilNextCall_hygienic _) _
  | sinceLastCall => exact isClean_respond (TimerHandle.sinceLastCall_hygienic _) _
  | period => exact isClean_respond (TimerHandle.period_hygienic _) _
  | exchangePeriod next => exact isClean_respond (TimerHandle.exchangePeriod_hygienic _ _) _
  | setPeriod next => exact isClean_respond (TimerHandle.setPeriod_hygienic _ _) _
  | call =>
    refine isClean_act
      (fun
        | .ok elapsed => .fired (.value .nothing) elapsed
        | .error e => .fired (.error e) [])
      (TimerHandle.call_hygienic place) (fun _ => rfl) (fun _ => rfl) ?_
    intro session
    simp only [TimerRequest.perform]
    cases session.act (TimerHandle.call place) with
    | mk ended after => cases ended <;> rfl

theorem isClean_storeTimer (slot clock : Slot) (owned : Bool) {action : Action Handle}
    (hygienic : Hygienic [.initTimer] action) (tell : Session → Outcome → StepAnswer)
    (tellError : ∀ session outcome, (tell session outcome).error? = outcome.error?)
    (tellAlike : ∀ first second outcome, Session.Alike first second →
      tell first outcome = tell second outcome) :
    IsClean [.initTimer] session fun session =>
      let (outcome, after) := session.storeTimer slot clock owned action
      (tell after outcome, after) :=
  isClean_store tell hygienic (fun _ _ => rfl) (fun _ _ _ alike => alike.putTimer slot _) tellError
    tellAlike

theorem isClean_makeTimer (slot clock context : Slot) (period : Nanos) :
    IsClean [.initTimer] session (·.makeTimer slot clock context period) := by
  refine isClean_choice (fun other alike => by rw [alike.timers]) (isClean_refuse _) ?_
  refine IsClean.behind (Session.isLook_context context) (fun heldContext session =>
    let (outcome, after) := (session.clock clock).2.storeTimer slot clock false
      (TimerHandle.create slot (session.clock clock).1.handle heldContext.handle period none)
    (.outcome outcome, after)) ?_
  refine IsClean.behind (Session.isLook_clock clock) (fun heldClock session =>
    let (outcome, after) := session.storeTimer slot clock false
      (TimerHandle.create slot heldClock.handle _ period none)
    (.outcome outcome, after)) ?_
  exact isClean_storeTimer slot clock false (TimerHandle.create_hygienic ..) (fun _ => .outcome)
    (fun _ _ => rfl) fun _ _ _ _ => rfl

theorem madeAnswer_error? (slot : Slot) (function : Option Bool) (session : Session)
    (outcome : Outcome) : (madeAnswer slot function session outcome).error? = outcome.error? := by
  unfold madeAnswer
  split <;> rfl

theorem madeAnswer_alike (slot : Slot) (function : Option Bool) {first second : Session}
    (outcome : Outcome) (alike : first.Alike second) :
    madeAnswer slot function first outcome = madeAnswer slot function second outcome := by
  unfold madeAnswer
  rw [alike.timers]
  split
  · rfl
  · rw [alike.hasCallback_eq]
  · rfl

theorem isClean_makeOwnedTimer (slot clock context : Slot) (period : Nanos)
    (function : Option Bool) :
    IsClean [.initTimer] session (·.makeOwnedTimer slot clock context period function) := by
  simp only [Session.makeOwnedTimer_eq]
  refine isClean_choice (fun other alike => by rw [alike.timers]) (isClean_refuse _) ?_
  refine IsClean.behind (Session.isLook_context context) (fun heldContext session =>
    if heldContext.owned && (session.clock clock).1.owned.isSome then
      let (outcome, after) := (session.clock clock).2.storeTimer slot clock true
        (TimerHandle.create slot (session.clock clock).1.handle heldContext.handle period
          (function.map .function))
      (madeAnswer slot function after outcome, after)
    else (session.clock clock).2.refuse .notOwned) ?_
  refine IsClean.behind (Session.isLook_clock clock) (fun heldClock session =>
    if _ && heldClock.owned.isSome then
      let (outcome, after) := session.storeTimer slot clock true
        (TimerHandle.create slot heldClock.handle _ period (function.map .function))
      (madeAnswer slot function after outcome, after)
    else session.refuse .notOwned) ?_
  refine isClean_choice (fun _ _ => rfl) ?_ (isClean_refuse _)
  exact isClean_storeTimer slot clock true (TimerHandle.create_hygienic ..)
    (madeAnswer slot function) (madeAnswer_error? slot function)
    fun _ _ outcome alike => madeAnswer_alike slot function outcome alike

theorem isClean_disposeTimer (slot : Slot) :
    IsClean [.finiTimer] session (·.disposeTimer slot) := by
  refine IsClean.behind (Session.isLook_timer slot) (fun held session =>
    let (outcome, after) := session.store (TimerHandle.dispose held.handle) fun after handle =>
      after.putTimer slot { held with handle }
    (.kept outcome (after.hasCallback held.handle), after)) ?_
  exact isClean_store (fun after outcome => .kept outcome (after.hasCallback _))
    (TimerHandle.dispose_hygienic _) (fun _ _ => rfl) (fun _ _ _ alike => alike.putTimer slot _)
    (fun _ _ => rfl) fun _ _ _ alike => by rw [alike.hasCallback_eq]

theorem isClean_dropTimer {tasks : List Task} (slot : Slot) :
    IsClean tasks session (·.dropTimer slot) := by
  refine isClean_found (·.timers.get? slot) (fun session => (.dropped false, session))
    (fun held session =>
      let state :=
        if held.owned then TimerHandle.release held.handle session.state else session.state
      let after := { session with state, timers := session.timers.erase slot }
      (.dropped (held.owned && after.hasCallback held.handle), after))
    (fun _ absent => by rw [Session.dropTimer, absent])
    (fun _ _ present => by rw [Session.dropTimer, present])
    (fun other alike => by rw [alike.timers]) (isClean_still rfl fun _ _ => rfl) fun held _ => ?_
  cases held.owned with
  | false =>
    refine isClean_calm rfl (State.Untroubled.refl _) fun _ alike => ⟨rfl, ?_⟩
    exact ⟨alike.state, alike.contexts, alike.clocks, congrArg (·.erase slot) alike.timers,
      alike.sources⟩
  | true =>
    refine isClean_calm rfl (TimerHandle.release_untroubled _ _) fun other alike => ?_
    have released : Session.Alike
        { session with
          state := TimerHandle.release held.handle session.state
          timers := session.timers.erase slot }
        { other with
          state := TimerHandle.release held.handle other.state
          timers := other.timers.erase slot } :=
      ⟨TimerHandle.release_alike _ alike.state, alike.contexts, alike.clocks,
        congrArg (·.erase slot) alike.timers, alike.sources⟩
    exact ⟨congrArg StepAnswer.dropped (released.hasCallback_eq held.handle), released⟩

theorem TimerStep.perform_clean (slot : Slot) (step : TimerStep) :
    IsClean step.tasks session fun session => step.perform slot session := by
  cases step with
  | create clock context period => exact isClean_makeTimer slot clock context period
  | new clock context period function =>
    exact isClean_makeOwnedTimer slot clock context period function
  | use request =>
    simp only [TimerStep.perform_use]
    refine IsClean.behind (Session.isLook_timer slot) (fun held session =>
      held.handle.elim (.outcome .misuse, session) (request.perform · session)) ?_
    cases (session.timer slot).1.handle with
    | none => exact isClean_still rfl fun _ _ => rfl
    | some place => exact request.perform_clean place
  | hasCallback =>
    refine IsClean.behind (Session.isLook_timer slot) (fun held session =>
      if held.owned then session.observe (.flag (session.hasCallback held.handle))
      else session.refuse .notOwned) ?_
    split
    · exact isClean_observe fun other alike => by rw [alike.hasCallback_eq]
    · exact isClean_refuse _
  | handle =>
    exact IsClean.behind (Session.isLook_timer slot)
      (fun held session => (.handle held.handle, session)) (isClean_still rfl fun _ _ => rfl)
  | dispose => exact isClean_disposeTimer slot
  | drop => exact isClean_dropTimer slot

theorem isClean_makeSource {tasks : List Task} (slot : Slot) (active : Bool) :
    IsClean tasks session (·.makeSource slot active) :=
  isClean_choice (fun other alike => by rw [alike.sources]) (isClean_refuse _)
    (isClean_calm rfl (State.Untroubled.refl _) fun _ alike => ⟨rfl, alike.putSource slot _⟩)

theorem Session.Alike.ownedClock?_eq {first second : Session} (alike : first.Alike second)
    (slot : Slot) : first.ownedClock? slot = second.ownedClock? slot := by
  unfold Session.ownedClock?
  rw [alike.clocks]

theorem SourceRequest.perform_clean (slot : Slot) (source : TimeSource) (request : SourceRequest) :
    IsClean request.tasks session fun session => request.perform slot source session := by
  cases request with
  | isActive | clockCount | last => exact isClean_observe fun _ _ => rfl
  | setActive active =>
    simp only [SourceRequest.perform]
    split
    · exact isClean_observe fun _ _ => rfl
    · exact (isClean_respond (TimeSource.publishActive_hygienic _) _).prepared rfl
        fun _ alike => alike.putSource slot _
  | update time =>
    simp only [SourceRequest.perform]
    split
    · next e rejected => exact isClean_outcome (TimeSpec.read_error rejected)
    · exact (isClean_respond (TimeSource.publishTime_hygienic _) _).prepared rfl
        fun _ alike => alike.putSource slot _
  | attach clock =>
    refine isClean_found (·.ownedClock? clock) (·.refuse .notOwned)
      (fun owned session => session.respondStore (source.attach clock owned) fun after source =>
        after.putSource slot source)
      (fun _ absent => by simp only [SourceRequest.perform, absent])
      (fun _ _ present => by simp only [SourceRequest.perform, present])
      (fun _ alike => alike.ownedClock?_eq clock) (isClean_refuse _) fun owned _ => ?_
    exact isClean_respondStore (TimeSource.attach_hygienic _ _ _) (fun _ _ => rfl)
      fun _ _ _ alike => alike.putSource slot _
  | detach clock =>
    refine isClean_found (·.ownedClock? clock) (·.refuse .notOwned)
      (fun _ session => (.done, session.putSource slot (source.detach clock)))
      (fun _ absent => by simp only [SourceRequest.perform, absent])
      (fun _ _ present => by simp only [SourceRequest.perform, present])
      (fun _ alike => alike.ownedClock?_eq clock) (isClean_refuse _) fun owned _ => ?_
    exact isClean_calm rfl (State.Untroubled.refl _) fun _ alike => ⟨rfl, alike.putSource slot _⟩

theorem SourceStep.perform_clean (slot : Slot) (step : SourceStep) :
    IsClean step.tasks session fun session => step.perform slot session := by
  cases step with
  | new active => exact isClean_makeSource slot active
  | newFromEnvironment =>
    have made : IsClean [] session (·.makeSource slot
        (Configuration.fromEnvironment session.state.environment).useSimTime) :=
      isClean_makeSource slot _
    refine ⟨made.ends, fun other alike => ?_⟩
    simp only [SourceStep.perform]
    rw [← alike.state.environment]
    exact made.blind other alike
  | use request =>
    exact isClean_found (·.sources.get? slot) (·.refuse .noTimeSource)
      (fun source session => request.perform slot source session)
      (fun _ absent => by simp only [SourceStep.perform, absent])
      (fun _ _ present => by simp only [SourceStep.perform, present])
      (fun other alike => by rw [alike.sources]) (isClean_refuse _)
      fun source _ => request.perform_clean slot source
  | drop =>
    exact isClean_calm rfl (State.Untroubled.refl _) fun _ alike =>
      ⟨rfl, alike.state, alike.contexts, alike.clocks, alike.timers,
        congrArg (·.erase slot) alike.sources⟩

/-- Every step on handles keeps to its own diagnostics. -/
theorem Step.perform_clean (live : session.HasLiveClocks) (step : Step)
    (onHandles : step.isOnHandles = true) :
    IsClean step.tasks session fun session => step.perform session := by
  cases step with
  | operation asked => cases onHandles
  | context slot step => exact step.perform_clean slot
  | clock slot step => exact step.perform_clean live slot
  | timer slot step => exact step.perform_clean slot
  | source slot step => exact step.perform_clean slot
  | startLogging =>
    refine isClean_calm rfl (State.Untroubled.write ?_) fun _ alike =>
      ⟨rfl, alike.withState (alike.state.write _ _)⟩
    intro record member
    cases List.mem_singleton.mp member
    rfl

end

end RosClient
