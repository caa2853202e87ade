import RosClient.Proofs.Diagnostic.Handle
import RosClient.Proofs.Session.Handles
import RosClient.Proofs.Session.Vacant

namespace RosClient

/-- Whether a record tells that something could not be released at the end of its owner. -/
def LogRecord.isReleaseFailure : LogRecord → Bool
  | releaseFailed .. => true
  | _ => false

/-- The instance id of the context that a record tells to be shut down. -/
def LogRecord.shutDownId? : LogRecord → Option Nat
  | contextShutDown id => some id
  | _ => none

/-- Nothing of a kind is left at a place. -/
def Objects.Lacks (objects : Objects) (place : Place) : HandleKind → Prop
  | .context => objects.contexts place = none
  | .clock => (objects.clocks place).storage = none
  | .timer => objects.timers place = none

section

variable {handle : Handle} {state : State}

theorem ContextHandle.dispose_leaves (invalid : isValid handle state = false) :
    ∃ after, dispose handle state = .ok none after ∧
      ∀ place, handle = some place → after.objects.Lacks place .context := by
  cases present : state.objects.contextAt handle with
  | none =>
    refine ⟨state, dispose_of_none present, ?_⟩
    rintro place rfl
    exact present
  | some context =>
    obtain ⟨place, rfl, here⟩ := Option.bind_eq_some_iff.mp present
    rw [isValid_of_some here] at invalid
    refine ⟨_, dispose_of_shut here invalid, ?_⟩
    intro other same
    cases same
    exact replace_self state.objects.contexts place none

theorem ClockHandle.dispose_leaves
    (stored : ∀ place, handle = some place → state.objects.stored place = true) :
    ∃ after, dispose handle state = .ok none after ∧ after.log = state.log ∧
      after.pending = state.pending ∧
      ∀ place, handle = some place → after.objects.Lacks place .clock := by
  cases handle with
  | none => exact ⟨state, rfl, rfl, rfl, nofun⟩
  | some place =>
    have accepted : Verdict.finiClock (some place) state =
        .ok (state.commit (state.objects.setClock place .zero)) :=
      Verdict.finiClock_eq_ok.mpr ⟨place, rfl, stored place rfl, rfl⟩
    refine ⟨_, bind_of_ok (attempt_of_ok accepted), List.append_nil _, rfl, ?_⟩
    intro other same
    cases same
    exact congrArg Clock.storage (replace_self state.objects.clocks place .zero)

theorem TimerHandle.dispose_leaves (handle : Handle) (state : State) :
    ∃ after, dispose handle state = .ok none after ∧ after.log = state.log ∧
      after.pending = state.pending ∧
      ∀ place, handle = some place → after.objects.Lacks place .timer := by
  cases handle with
  | none => exact ⟨state, rfl, rfl, rfl, nofun⟩
  | some place =>
    have accepted : Verdict.finiTimer (some place) state =
        .ok (state.commit (state.objects.setTimer place none)) := rfl
    refine ⟨_, bind_of_ok (attempt_of_ok accepted), List.append_nil _, rfl, ?_⟩
    intro other same
    cases same
    exact replace_self state.objects.timers place none

theorem ContextHandle.shutDownId?_endRecords (context : Context) :
    (endRecords context).filterMap LogRecord.shutDownId? =
      context.instance?.toList := by
  unfold endRecords Verdict.releaseRecords
  cases context.instance? <;> split <;> rfl

theorem ContextHandle.isReleaseFailure_endRecords (context : Context) :
    ∀ record ∈ endRecords context, record.isReleaseFailure = false := by
  unfold endRecords Verdict.releaseRecords
  cases context.instance? <;> split <;> simp [LogRecord.isReleaseFailure]

theorem ContextHandle.release_leaves (handle : Handle) (state : State) :
    let after := release handle state
    (∀ place, handle = some place → after.objects.Lacks place .context) ∧
      after.pending = state.pending ∧
      ∃ records, after.log = state.log ++ records ∧
        (∀ record ∈ records, record.isReleaseFailure = false) ∧
        records.filterMap LogRecord.shutDownId? =
          ((state.objects.contextAt handle).bind Context.instance?).toList := by
  cases present : state.objects.contextAt handle with
  | none =>
    rw [release_of_none present]
    refine ⟨?_, rfl, [], (List.append_nil _).symm, List.forall_mem_nil _, rfl⟩
    rintro place rfl
    exact present
  | some context =>
    obtain ⟨place, rfl, here⟩ := Option.bind_eq_some_iff.mp present
    obtain ⟨calls, released⟩ := release_of_some here
    rw [released]
    refine ⟨?_, rfl, endRecords context, rfl, isReleaseFailure_endRecords context,
      shutDownId?_endRecords context⟩
    intro other same
    cases same
    exact replace_self state.objects.contexts place none

theorem ContextHandle.new_reports (vacant : state.IsVacant) (slot : Slot) (arguments : List String)
    (domain : Option DomainId) :
    (errorOf? (new slot arguments domain state)).isSome = true →
      ∃ records, (stateOf (new slot arguments domain state)).log = state.log ++ records ∧
        ∀ record ∈ records, record.isReleaseFailure = false ∧ record.shutDownId? = none := by
  intro failed
  have vacantToo : (cleared slot state).IsVacant := vacant
  cases clean : rejection? arguments with
  | some rejection =>
    have rejected : init (some (.handle slot)) arguments domain (cleared slot state) =
        .error (.ofRejection rejection) (cleared slot state) := by
      rw [init, clean]
      rfl
    rw [new_of_error rejected]
    exact ⟨[], (List.append_nil _).symm, List.forall_mem_nil _⟩
  | none =>
    cases outcome : initVerdict (some (.handle slot)) arguments
        (withOptions domain (cleared slot state)) with
    | ok commit =>
      rw [new_of_ok (init_of_accepted vacantToo clean outcome)] at failed
      cases failed
    | error fault =>
      rw [new_of_error (init_of_refused vacantToo clean outcome)]
      refine ⟨_, rfl, ?_⟩
      change ∀ record ∈ LogRecord.diagnostic _ :: (state.overwritten ++ [LogRecord.failure _]), _
      unfold State.overwritten
      cases state.pending <;> simp [LogRecord.isReleaseFailure, LogRecord.shutDownId?]

end

namespace Session

/-- Disposes of what a slot holds. -/
def disposeOf (session : Session) (slot : Slot) : HandleKind → StepAnswer × Session
  | .context => (ContextStep.use .dispose).perform slot session
  | .clock => session.disposeClock slot
  | .timer => session.disposeTimer slot

/-- Puts a slot out of use. -/
def dropOf (session : Session) (slot : Slot) : HandleKind → Session
  | .context => session.dropContext slot
  | .clock => session.dropClock slot
  | .timer => (session.dropTimer slot).2

/-- Whether a slot holds an owned object. -/
def owns (session : Session) (slot : Slot) : HandleKind → Bool
  | .context => (session.heldContext slot).owned
  | .clock => (session.heldClock slot).owned.isSome
  | .timer => (session.heldTimer slot).owned

/-- Whether the context in a slot is valid. -/
def isContextValid (session : Session) (slot : Slot) : Bool :=
  session.state.objects.isContextValid (session.handle slot .context)

/-- The instance id that the end of an object in a slot gives back: that of a valid context. -/
def heldIds (session : Session) (slot : Slot) : HandleKind → List Nat
  | .context =>
    ((session.state.objects.contextAt (session.handle slot .context)).bind Context.instance?).toList
  | .clock | .timer => []

/-- Disposing of what a slot holds goes well: the handle is empty then, and the object gone. -/
def Disposes (session : Session) (slot : Slot) (kind : HandleKind) : Prop :=
  let (answer, after) := session.disposeOf slot kind
  answer.isOk = true ∧ after.handle slot kind = none ∧
    ∀ place, session.handle slot kind = some place → after.state.objects.Lacks place kind

/-- Disposing of the context in a slot is refused, and both it and its handle are kept. -/
def KeepsContext (session : Session) (slot : Slot) : Prop :=
  let (answer, after) := session.disposeOf slot .context
  answer = .outcome (.error
      (.failed .runtime .invalidArgument (failureMessage .finiContext .contextValid))) ∧
    after.heldContext = session.heldContext ∧ after.state.objects = session.state.objects

/-- Shutting down the context in a slot goes well, and disposing of it behind that. -/
def ShutsDown (session : Session) (slot : Slot) : Prop :=
  let (answer, down) := (ContextStep.use .shutdown).perform slot session
  answer = .outcome (.value .nothing) ∧ down.Disposes slot .context

/-- The end of an owner: the object is gone, none of its clean-ups failed, and a context that was
still valid was shut down once. -/
structure Ended (before : Session) (slot : Slot) (kind : HandleKind) (after : Session) : Prop where
  handle : after.handle slot kind = none
  gone : ∀ place, before.handle slot kind = some place → after.state.objects.Lacks place kind
  pending : after.state.pending = before.state.pending
  log : ∃ records, after.state.log = before.state.log ++ records ∧
    (∀ record ∈ records, record.isReleaseFailure = false) ∧
    records.filterMap LogRecord.shutDownId? = before.heldIds slot kind

variable {session : Session} {slot : Slot}

theorem disposeContext_eq (session : Session) (slot : Slot) :
    session.disposeOf slot .context =
      (session.context slot).2.respondStore
        (ContextHandle.dispose (session.heldContext slot).handle)
        fun after handle => after.putContext slot { session.heldContext slot with handle } := by
  rw [← context_fst]
  rfl

theorem disposes_context (invalid : session.isContextValid slot = false) :
    session.Disposes slot .context := by
  have invalidToo : ContextHandle.isValid (session.heldContext slot).handle
      (session.context slot).2.state = false := by
    rw [state_context]
    exact invalid
  obtain ⟨after, ended, gone⟩ := ContextHandle.dispose_leaves invalidToo
  unfold Disposes
  rw [disposeContext_eq, respondStore_of_ok ended]
  exact ⟨rfl, congrArg HeldContext.handle (heldContext_putContext_self _ _ _), gone⟩

theorem keepsContext_of_valid (valid : session.isContextValid slot = true) :
    session.KeepsContext slot := by
  obtain ⟨place, context, id, here, present, alive⟩ := Verdict.isContextValid_iff.mp valid
  have validToo : context.isValid = true := by rw [Context.isValid, alive]; rfl
  have there : (session.heldContext slot).handle = some place := here
  have presentToo : (session.context slot).2.state.objects.contexts place = some context := by
    rw [state_context]
    exact present
  unfold KeepsContext
  rw [disposeContext_eq, there,
    respondStore_of_error (ContextHandle.dispose_of_valid presentToo validToo)]
  refine ⟨rfl, heldContext_context session slot, ?_⟩
  change (session.context slot).2.state.objects = _
  rw [state_context]

theorem HasLiveClocks.stored (live : session.HasLiveClocks) {place : Place}
    (here : session.handle slot .clock = some place) :
    session.state.objects.stored place = true := by
  unfold Session.handle heldClock at here
  cases present : session.clocks.get? slot with
  | none =>
    rw [present] at here
    cases here
  | some held =>
    rw [present] at here
    exact (live slot held place present here).2

theorem HasLiveClocks.disposes (live : session.HasLiveClocks) (slot : Slot) :
    session.Disposes slot .clock := by
  have stored : ∀ place, (session.heldClock slot).handle = some place →
      (session.clock slot).2.state.objects.stored place = true := by
    intro place here
    rw [state_clock]
    exact live.stored here
  obtain ⟨after, ended, _, _, gone⟩ := ClockHandle.dispose_leaves stored
  unfold Disposes disposeOf
  rw [disposeClock_eq, respondStore_of_ok ended]
  exact ⟨rfl, congrArg HeldClock.handle (heldClock_putClock_self _ _ _), gone⟩

theorem disposes_timer (session : Session) (slot : Slot) : session.Disposes slot .timer := by
  obtain ⟨after, ended, _, _, gone⟩ :=
    TimerHandle.dispose_leaves (session.heldTimer slot).handle (session.timer slot).2.state
  unfold Disposes disposeOf
  rw [disposeTimer_eq]
  simp only [store, act, ended]
  exact ⟨rfl, congrArg HeldTimer.handle (heldTimer_putTimer_self _ _ _), gone⟩

theorem disposeOf_of_empty {kind : HandleKind} (empty : session.handle slot kind = none) :
    session.Disposes slot kind ∧ (session.disposeOf slot kind).2.state = session.state := by
  cases kind with
  | context =>
    have held : (session.heldContext slot).handle = none := empty
    have ended : ContextHandle.dispose none (session.context slot).2.state =
        .ok none (session.context slot).2.state := rfl
    have invalid : session.isContextValid slot = false := by
      unfold isContextValid
      rw [empty]
      rfl
    refine ⟨disposes_context invalid, ?_⟩
    rw [disposeContext_eq, held, respondStore_of_ok ended]
    exact state_context session slot
  | clock =>
    unfold Disposes disposeOf
    rw [disposeClock_none empty]
    refine ⟨⟨rfl, (congrArg HeldClock.handle (heldClock_putClock_self _ _ _)).trans empty, ?_⟩,
      state_clock session slot⟩
    intro place here
    cases empty.symm.trans here
  | timer =>
    refine ⟨disposes_timer session slot, ?_⟩
    unfold disposeOf
    rw [disposeTimer_none empty]
    exact state_timer session slot

theorem shutsDown (session : Session) (slot : Slot) : session.ShutsDown slot := by
  obtain ⟨after, ended, invalid⟩ := ContextHandle.shutdown_never_fails
    (session.heldContext slot).handle (session.context slot).2.state
  have performed : (ContextStep.use .shutdown).perform slot session =
      (session.context slot).2.respondUnit
        (ContextHandle.shutdown (session.heldContext slot).handle) := by
    rw [← context_fst]
    rfl
  unfold ShutsDown
  rw [performed, respondUnit, respond_of_ok ended]
  refine ⟨rfl, disposes_context ?_⟩
  unfold isContextValid Session.handle
  change after.objects.isContextValid ((session.context slot).2.heldContext slot).handle = false
  rw [heldContext_context]
  exact invalid

theorem get?_of_owned_context (owned : session.owns slot .context = true) :
    session.contexts.get? slot = some ⟨session.handle slot .context, true⟩ := by
  unfold owns heldContext at owned
  unfold Session.handle heldContext
  cases present : session.contexts.get? slot with
  | none =>
    rw [present] at owned
    cases owned
  | some held =>
    rw [present] at owned
    exact congrArg (fun flag => some (HeldContext.mk held.handle flag)) owned

theorem ended_context (owned : session.owns slot .context = true) :
    session.Ended slot .context (session.dropContext slot) := by
  have dropped : session.dropContext slot =
      { session with
        state := ContextHandle.release (session.handle slot .context) session.state
        contexts := session.contexts.erase slot } := by
    rw [dropContext, get?_of_owned_context owned]
  obtain ⟨gone, pending, log⟩ :=
    ContextHandle.release_leaves (session.handle slot .context) session.state
  rw [dropped]
  refine ⟨?_, gone, pending, log⟩
  change (((session.contexts.erase slot).get? slot).getD .empty).handle = none
  rw [Slots.get?_erase_self]
  rfl

theorem HasLiveClocks.ended (live : session.HasLiveClocks)
    (owned : session.owns slot .clock = true) :
    session.Ended slot .clock (session.dropClock slot) := by
  obtain ⟨type, here⟩ := Option.isSome_iff_exists.mp owned
  have found : (session.clocks.get? slot).bind HeldClock.owned? =
      some ⟨session.handle slot .clock, type⟩ := by
    unfold heldClock at here
    unfold Session.handle heldClock
    cases present : session.clocks.get? slot with
    | none =>
      rw [present] at here
      cases here
    | some held =>
      rw [present] at here
      exact congrArg (Option.map _) here
  obtain ⟨after, ended, log, pending, gone⟩ :=
    ClockHandle.dispose_leaves fun place (there : session.handle slot .clock = some place) =>
      live.stored there
  have dropped : session.dropClock slot =
      { session with state := after, clocks := session.clocks.erase slot } := by
    simp only [Session.dropClock, found, OwnedClock.release]
    rw [release_of_ok ended]
  rw [dropped]
  refine ⟨?_, gone, pending, [], log.trans (List.append_nil _).symm, List.forall_mem_nil _, rfl⟩
  change (((session.clocks.erase slot).get? slot).getD .empty).handle = none
  rw [Slots.get?_erase_self]
  rfl

theorem ended_timer (owned : session.owns slot .timer = true) :
    session.Ended slot .timer (session.dropTimer slot).2 := by
  unfold owns heldTimer at owned
  cases present : session.timers.get? slot with
  | none =>
    rw [present] at owned
    cases owned
  | some held =>
    rw [present] at owned
    have same : session.handle slot .timer = held.handle := by
      unfold Session.handle heldTimer
      rw [present]
      rfl
    obtain ⟨after, ended, log, pending, gone⟩ :=
      TimerHandle.dispose_leaves held.handle session.state
    have dropped : (session.dropTimer slot).2 =
        { session with state := after, timers := session.timers.erase slot } := by
      simp only [dropTimer, present, show held.owned = true from owned, ↓reduceIte,
        TimerHandle.release]
      rw [release_of_ok ended]
    rw [dropped]
    refine ⟨?_, same ▸ gone, pending, [], log.trans (List.append_nil _).symm,
      List.forall_mem_nil _, rfl⟩
    change (((session.timers.erase slot).get? slot).getD .empty).handle = none
    rw [Slots.get?_erase_self]
    rfl

theorem makes_reports (vacant : session.state.IsVacant) {step : ContextStep}
    (makes : step.makes = true) (failed : (step.perform slot session).1.isOk = false) :
    ∃ records, (step.perform slot session).2.state.log = session.state.log ++ records ∧
      ∀ record ∈ records, record.isReleaseFailure = false ∧ record.shutDownId? = none := by
  have news (arguments : List String) (domain : Option DomainId)
      (failed : (session.makeContext slot true
        (ContextHandle.new slot arguments domain)).1.isOk = false) :
      ∃ records, (session.makeContext slot true
          (ContextHandle.new slot arguments domain)).2.state.log = session.state.log ++ records ∧
        ∀ record ∈ records, record.isReleaseFailure = false ∧ record.shutDownId? = none := by
    unfold makeContext at failed ⊢
    split
    · exact ⟨[], (List.append_nil _).symm, List.forall_mem_nil _⟩
    · next free =>
      simp only [free, Bool.false_eq_true, ↓reduceIte] at failed
      have reported := ContextHandle.new_reports vacant slot arguments domain
      cases ended : ContextHandle.new slot arguments domain session.state with
      | ok handle after =>
        rw [respondStore_of_ok ended] at failed
        cases failed
      | error e after =>
        rw [respondStore_of_error ended]
        rw [ended] at reported
        exact reported rfl
  cases step with
  | create =>
    have ended : ContextHandle.create slot session.state = .ok (some (.handle slot)) _ :=
      bind_of_ok rfl
    simp only [ContextStep.perform, makeContext] at failed ⊢
    split at failed
    · next used =>
      rw [if_pos used]
      exact ⟨[], (List.append_nil _).symm, List.forall_mem_nil _⟩
    · rw [respondStore_of_ok ended] at failed
      cases failed
  | new arguments domain => exact news arguments domain failed
  | newFromEnvironment arguments => exact news arguments _ failed
  | use | drop => cases makes

end Session

open Session

/-- Releasing always works, and works once. In every session that steps led to, disposing of what a
slot holds goes well unless it is a valid context, which then stays as it is. Shutting down goes
well, and disposing after it. What is disposed of can be disposed of again, with nothing left to do,
as long as no new object is made in the slot. The end of an owner never fails in any of its parts,
and shuts a context down exactly once if it is still valid, also where the owner ends because the
context could not be made. -/
theorem handles_release_once (depth : Nat) (environment : Environment) (readings : Nat → RealTime)
    (history : List Step) (slot : Slot) :
    let session := (Session.start depth environment readings).after history
    (if session.isContextValid slot then session.KeepsContext slot
      else session.Disposes slot .context) ∧
    session.Disposes slot .clock ∧ session.Disposes slot .timer ∧
    session.ShutsDown slot ∧
    (∀ kind, (session.disposeOf slot kind).1.isOk = true →
      ∀ later : List Step, (∀ step ∈ later, step.makes kind slot = false) →
        let disposed := (session.disposeOf slot kind).2.after later
        disposed.Disposes slot kind ∧ (disposed.disposeOf slot kind).2.state = disposed.state) ∧
    (∀ kind, session.owns slot kind = true →
      session.Ended slot kind (session.dropOf slot kind)) ∧
    ∀ step : ContextStep, step.makes = true → (step.perform slot session).1.isOk = false →
      ∃ records, (step.perform slot session).2.state.log = session.state.log ++ records ∧
        ∀ record ∈ records, record.isReleaseFailure = false ∧ record.shutDownId? = none := by
  intro session
  have live : session.HasLiveClocks := after_start_hasLiveClocks depth environment readings history
  have vacant : session.state.IsVacant := after_start_isVacant depth environment readings history
  have contexts : if session.isContextValid slot then session.KeepsContext slot
      else session.Disposes slot .context := by
    split
    · next valid => exact keepsContext_of_valid valid
    · next invalid => exact disposes_context (Bool.not_eq_true _ ▸ invalid)
  refine ⟨contexts, live.disposes slot, disposes_timer session slot,
    shutsDown session slot, ?_, ?_, fun step => makes_reports vacant⟩
  · intro kind disposed later others
    have empty : (session.disposeOf slot kind).2.handle slot kind = none := by
      cases kind with
      | context =>
        split at contexts
        · have refused : (session.disposeOf slot .context).1 = .outcome (.error _) := contexts.1
          rw [refused] at disposed
          cases disposed
        · exact contexts.2.1
      | clock => exact (live.disposes slot).2.1
      | timer => exact (disposes_timer session slot).2.1
    exact disposeOf_of_empty (Session.empty_after empty others)
  · intro kind owned
    cases kind with
    | context => exact ended_context owned
    | clock => exact live.ended owned
    | timer => exact ended_timer owned

/-- A context that is owned and valid: it cannot be disposed of, and the end of its owner shuts it
down. -/
theorem handles_release_once_valid :
    let session := (Session.start 3 .empty fun _ => ⟨.ok .zero, .ok .zero⟩).after
      [.context 1 (.new ["talker"] (some 7))]
    session.KeepsContext 1 ∧ session.Ended 1 .context (session.dropContext 1) ∧
      session.heldIds 1 .context = [1] := by
  intro session
  have valid : session.isContextValid 1 = true := by rfl
  obtain ⟨contexts, _, _, _, _, ends, _⟩ := handles_release_once 3 .empty
    (fun _ => ⟨.ok .zero, .ok .zero⟩) [.context 1 (.new ["talker"] (some 7))] 1
  exact ⟨Eq.mp (if_pos valid) contexts, ends .context rfl, rfl⟩

end RosClient
