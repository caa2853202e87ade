import RosClient.Proofs.Session.Frame
import RosClient.Proofs.Session.Keeps

namespace RosClient

namespace Session

/-- A session as it starts: no slot is in use, and there are no objects. -/
def start (depth : Nat) (environment : Environment) (readings : Nat → RealTime) : Session :=
  { depth, state := { environment, readings } }

/-- The session after steps, one after the other. -/
def after (session : Session) (steps : List Step) : Session :=
  steps.foldl (fun session step => (step.perform session).2) session

/-- Every handle to a clock leads to the place of its slot, where a clock has storage. -/
def HasLiveClocks (session : Session) : Prop :=
  ∀ slot held place, session.clocks.get? slot = some held → held.handle = some place →
    place = .handle slot ∧ session.state.objects.stored place = true

/-- Every handle to a clock that is not in one slot leads to the place of its own, alive. -/
def HasLiveClocksBut (slot : Slot) (session : Session) : Prop :=
  ∀ other held place, other ≠ slot → session.clocks.get? other = some held →
    held.handle = some place →
      place = .handle other ∧ session.state.objects.stored place = true

theorem start_hasLiveClocks (depth : Nat) (environment : Environment) (readings : Nat → RealTime) :
    (start depth environment readings).HasLiveClocks :=
  fun _ _ _ present => nomatch present

namespace HasLiveClocks

variable {session : Session}

theorem of_same (live : session.HasLiveClocks) {other : Session}
    (clocks : other.heldClock = session.heldClock)
    (stored : ∀ slot, other.state.objects.stored (.handle slot) =
      session.state.objects.stored (.handle slot)) : other.HasLiveClocks := by
  intro slot held place present here
  have same : session.heldClock slot = held := by
    rw [← clocks, heldClock, present]
    rfl
  have found : session.clocks.get? slot = some held := by
    unfold heldClock at same
    cases absent : session.clocks.get? slot with
    | some _ =>
      rw [absent] at same
      exact congrArg some same
    | none =>
      rw [absent] at same
      cases same
      cases here
  obtain ⟨rfl, kept⟩ := live slot held place found here
  exact ⟨rfl, (stored slot).trans kept⟩

theorem but (live : session.HasLiveClocks) (slot : Slot) {state : State}
    (stored : ∀ place, place ≠ .handle slot →
      state.objects.stored place = session.state.objects.stored place) :
    HasLiveClocksBut slot { session with state } := by
  intro other held place apart present here
  obtain ⟨rfl, kept⟩ := live other held place present here
  refine ⟨rfl, (stored _ ?_).trans kept⟩
  intro same
  cases same
  exact apart rfl

end HasLiveClocks

theorem HasLiveClocksBut.putClock {session : Session} {slot : Slot}
    (live : HasLiveClocksBut slot session) (held : HeldClock)
    (alive : ∀ place, held.handle = some place →
      place = .handle slot ∧ session.state.objects.stored place = true) :
    (session.putClock slot held).HasLiveClocks := by
  intro other found place present here
  by_cases same : other = slot
  · subst same
    rw [Session.putClock, Slots.get?_put_self] at present
    cases present
    exact alive place here
  · rw [Session.putClock, Slots.get?_put_of_ne _ _ same] at present
    exact live other found place same present here

theorem HasLiveClocksBut.erase {session : Session} {slot : Slot}
    (live : HasLiveClocksBut slot session) :
    { session with clocks := session.clocks.erase slot }.HasLiveClocks := by
  intro other found place present here
  by_cases same : other = slot
  · subst same
    rw [Slots.get?_erase_self] at present
    cases present
  · rw [Slots.get?_erase_of_ne _ same] at present
    exact live other found place same present here

namespace HasLiveClocks

variable {session : Session}

theorem clock (live : session.HasLiveClocks) (slot : Slot) :
    (session.clock slot).2.HasLiveClocks := by
  unfold Session.clock
  split
  · exact live
  · exact (live.but slot fun _ _ => rfl).putClock .empty fun _ here => nomatch here

end HasLiveClocks

end Session

theorem ClockHandle.create_new (slot : Slot) (type : ClockType) (state : State) :
    ∃ after, create slot type state = .ok (some (.handle slot)) after ∧
      after.objects.clocks (.handle slot) = .new type ∧
      ∀ other, other ≠ .handle slot → after.objects.stored other = state.objects.stored other := by
  have accepted : Verdict.initClock type (some (.handle slot))
      { state with objects := state.objects.setClock (.handle slot) .zero } = .ok _ :=
    Verdict.initClock_eq_ok.mpr
      ⟨.handle slot, rfl, congrArg Clock.storage (replace_self _ _ _), rfl⟩
  refine ⟨_, (bind_of_ok rfl).trans (bind_of_ok (attempt_of_ok accepted)), ?_, ?_⟩
  · exact replace_self _ _ _
  · intro other apart
    exact (stored_setClock_of_ne _ _ apart).trans (stored_setClock_of_ne _ _ apart)

theorem ClockHandle.dispose_of_stored (handle : Handle) (state : State)
    (alive : ∀ place, handle = some place → state.objects.stored place = true) :
    ∃ after, dispose handle state = .ok none after ∧
      ∀ other, handle ≠ some other → after.objects.stored other = state.objects.stored other := by
  cases handle with
  | none => exact ⟨state, rfl, fun _ _ => rfl⟩
  | some place =>
    have accepted := Verdict.finiClock_eq_ok.mpr ⟨place, rfl, alive place rfl, rfl⟩
    refine ⟨_, bind_of_ok (attempt_of_ok accepted), ?_⟩
    intro other apart
    exact stored_setClock_of_ne _ _ fun same => apart (congrArg some same.symm)

theorem clocks_after (operations : List Operation) (state : State) (slot : Slot) :
    (state.after operations).objects.clocks (.handle slot) =
      state.objects.clocks (.handle slot) := by
  induction operations generalizing state with
  | nil => rfl
  | cons operation rest ih =>
    exact (ih _).trans (operation.clocks_perform state fun _ => Place.noConfusion)

namespace Session.HasLiveClocks

variable {session : Session}

theorem runOperation (live : session.HasLiveClocks) (operation : Operation) :
    (session.runOperation operation).2.HasLiveClocks := by
  refine live.of_same rfl ?_
  intro slot
  change (run session.depth operation session.state).2.objects.stored _ = _
  rw [run_state, Objects.stored, clocks_after]
  rfl

theorem makeClock (live : session.HasLiveClocks) (slot : Slot) (typeName : String) (owned : Bool) :
    (session.makeClock slot typeName owned).2.HasLiveClocks := by
  unfold Session.makeClock
  split
  · exact live
  · split
    · exact live
    · next type _ =>
      obtain ⟨after, ended, made, others⟩ := ClockHandle.create_new slot type session.state
      change (session.store (ClockHandle.create slot type) _).2.HasLiveClocks
      rw [store_snd, ended]
      refine (live.but slot others).putClock _ ?_
      intro place here
      cases here
      refine ⟨rfl, ?_⟩
      change (after.objects.clocks (.handle slot)).storage.isSome = true
      rw [made]
      rfl

theorem get?_clock (session : Session) (slot : Slot) :
    (session.clock slot).2.clocks.get? slot = some (session.clock slot).1 := by
  unfold Session.clock
  split
  · next held present => exact present
  · exact Slots.get?_put_self _ _ _

theorem dispose (live : session.HasLiveClocks) {slot : Slot} {held : HeldClock}
    (present : session.clocks.get? slot = some held) :
    ∃ after, ClockHandle.dispose held.handle session.state = .ok none after ∧
      HasLiveClocksBut slot { session with state := after } := by
  obtain ⟨after, ended, others⟩ := ClockHandle.dispose_of_stored held.handle session.state
    fun place here => (live slot held place present here).2
  refine ⟨after, ended, live.but slot ?_⟩
  intro place apart
  refine others place ?_
  intro here
  exact apart (live slot held place present here).1

theorem disposeClock (live : session.HasLiveClocks) (slot : Slot) :
    (session.disposeClock slot).2.HasLiveClocks := by
  obtain ⟨after, ended, but⟩ := (live.clock slot).dispose (get?_clock session slot)
  change ((session.clock slot).2.store (ClockHandle.dispose (session.clock slot).1.handle)
    fun after handle => after.putClock slot { (session.clock slot).1 with handle }).2.HasLiveClocks
  rw [store_snd, ended]
  exact but.putClock _ fun _ here => nomatch here

theorem dropClock (live : session.HasLiveClocks) (slot : Slot) :
    (session.dropClock slot).HasLiveClocks := by
  unfold Session.dropClock
  apply HasLiveClocksBut.erase
  split
  · next clock found =>
    obtain ⟨held, present, owned⟩ := Option.bind_eq_some_iff.mp found
    obtain ⟨type, _, rfl⟩ := Option.map_eq_some_iff.mp owned
    obtain ⟨after, ended, but⟩ := live.dispose present
    rw [OwnedClock.release, release_of_ok ended]
    exact but
  · exact live.but slot fun _ _ => rfl

end Session.HasLiveClocks

open Session

variable {session : Session}

theorem ContextStep.perform_live (live : session.HasLiveClocks) (slot : Slot)
    (step : ContextStep) : (step.perform slot session).2.HasLiveClocks := by
  have kept : (step.perform slot session).2.state.objects.stored = session.state.objects.stored :=
    step.perform_keeps Objects.stored (stored_hides_options _) (stored_hides_contexts _)
      (stored_hides_contexts _)
  exact live.of_same ((Step.context slot step).heldClock_perform session rfl)
    fun _ => congrFun kept _

theorem ClockRequest.perform_live (live : session.HasLiveClocks) (held : HeldClock)
    (request : ClockRequest) : (request.perform held session).2.HasLiveClocks :=
  live.of_same (request.perform_frame (·.heldClock) (fun _ _ => rfl) held session) fun _ =>
    congrFun (request.perform_keeps (Verdict.keptByOverrides_stored _) session) _

theorem ClockStep.perform_live (live : session.HasLiveClocks) (slot : Slot) (step : ClockStep) :
    (step.perform slot session).2.HasLiveClocks := by
  cases step with
  | create typeName => exact live.makeClock slot typeName false
  | new typeName => exact live.makeClock slot typeName true
  | use request => exact request.perform_live (live.clock slot) _
  | dispose =>
    simp only [ClockStep.perform]
    split
    · exact live
    · exact live.disposeClock slot
  | drop =>
    simp only [ClockStep.perform]
    split
    · exact live
    · exact live.dropClock slot

theorem TimerStep.perform_live (live : session.HasLiveClocks) (slot : Slot) (step : TimerStep) :
    (step.perform slot session).2.HasLiveClocks :=
  live.of_same ((Step.timer slot step).heldClock_perform session rfl) fun _ =>
    congrFun (step.perform_keeps Objects.stored (stored_hides_timers _) (stored_hides_timers _)) _

theorem SourceStep.perform_live (live : session.HasLiveClocks) (slot : Slot) (step : SourceStep) :
    (step.perform slot session).2.HasLiveClocks := by
  have kept : (step.perform slot session).2.state.objects.stored = session.state.objects.stored :=
    step.perform_keeps Objects.stored slot (fun _ _ _ _ => Verdict.keptByOverrides_stored _)
      fun _ _ _ _ => Verdict.keptByOverrides_stored _
  exact live.of_same ((Step.source slot step).heldClock_perform session rfl)
    fun _ => congrFun kept _

/-- Every step keeps the handles to clocks alive. -/
theorem Step.perform_live (live : session.HasLiveClocks) (step : Step) :
    (step.perform session).2.HasLiveClocks := by
  cases step with
  | operation asked => exact live.runOperation asked
  | context slot step => exact step.perform_live live slot
  | clock slot step => exact step.perform_live live slot
  | timer slot step => exact step.perform_live live slot
  | source slot step => exact step.perform_live live slot
  | startLogging => exact live.of_same rfl fun _ => rfl

theorem Session.HasLiveClocks.after (live : session.HasLiveClocks) (steps : List Step) :
    (session.after steps).HasLiveClocks := by
  induction steps generalizing session with
  | nil => exact live
  | cons step rest ih => exact ih (step.perform_live live)

/-- In a session that steps lead to, every handle to a clock is alive. -/
theorem after_start_hasLiveClocks (depth : Nat) (environment : Environment)
    (readings : Nat → RealTime) (steps : List Step) :
    ((start depth environment readings).after steps).HasLiveClocks :=
  (start_hasLiveClocks depth environment readings).after steps

end RosClient
