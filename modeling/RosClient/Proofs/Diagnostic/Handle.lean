import RosClient.Handle.Context
import RosClient.Handle.Timer
import RosClient.Proofs.Diagnostic.Action
import RosClient.TimeSource

namespace RosClient

theorem ClockType.named_error {name : String} {e : Error} (unknown : named name = .error e) :
    e.status? = none := by
  unfold named at unknown
  split at unknown
  · cases unknown
  · cases unknown
    rfl

theorem Time.ofNanos_error {nanoseconds : Nanos} {type : ClockType} {e : Error}
    (rejected : ofNanos nanoseconds type = .error e) : e.status? = none := by
  unfold ofNanos at rejected
  split at rejected
  · cases rejected
  · cases rejected
    rfl

theorem Time.ofParts_error {seconds nanoseconds : Int} {type : ClockType} {e : Error}
    (rejected : ofParts seconds nanoseconds type = .error e) : e.status? = none := by
  unfold ofParts at rejected
  split at rejected
  · cases rejected
    rfl
  · simp only at rejected
    split at rejected
    · exact ofNanos_error rejected
    · cases rejected
      rfl

theorem TimeSpec.read_error {time : TimeSpec} {e : Error} (rejected : time.read = .error e) :
    e.status? = none := by
  unfold read at rejected
  split at rejected
  · next unknown =>
    cases rejected
    exact ClockType.named_error unknown
  · split at rejected
    · exact Time.ofParts_error rejected
    · exact Time.ofNanos_error rejected
    · cases rejected

theorem hygienic_ofExcept {α : Type} {tasks : List Task} {result : Except Error α}
    (own : ∀ e, result = .error e → e.status? = none) :
    Hygienic tasks (MonadExcept.ofExcept result : Action α) := by
  cases result with
  | ok value => exact hygienic_pure value
  | error e => exact hygienic_throw (own e rfl)

theorem alike_release {α : Type} {tasks : List Task} {action : Action α}
    (hygienic : Hygienic tasks action) {first second : State} (alike : first.Alike second)
    (object : String) : (first.release object action).Alike (second.release object action) := by
  have both := hygienic.blind first second alike
  unfold State.release
  generalize action first = end₁, action second = end₂ at both
  cases both with
  | ok alikeAfter => exact alikeAfter
  | error alikeAfter => exact alikeAfter.write _ _

theorem State.Alike.setObjects {first second : State} (alike : first.Alike second)
    (change : Objects → Objects) :
    { first with objects := change first.objects }.Alike
      { second with objects := change second.objects } :=
  ⟨congrArg change alike.objects, alike.environment, alike.readings, alike.calls⟩

theorem hygienic_setObjects {tasks : List Task} (change : Objects → Objects) :
    Hygienic tasks (modify fun state => { state with objects := change state.objects } :
      Action Unit) :=
  hygienic_modify (fun _ => ⟨rfl, [], (List.append_nil _).symm, fun _ member => nomatch member⟩)
    (fun _ _ alike => alike.setObjects change)

namespace ClockHandle

theorem create_hygienic (slot : Slot) (type : ClockType) :
    Hygienic [.initClock] (create slot type) :=
  (hygienic_setObjects fun objects => objects.setClock (.handle slot) .zero).bind fun _ =>
    (hygienic_attempt List.mem_cons_self (.initClock ..) (Verdict.initClock_isPlain _ _)).bind
      fun _ => hygienic_pure _

theorem now_hygienic (handle : Handle) : Hygienic [.clockNow] (now handle) :=
  hygienic_attempt List.mem_cons_self (.clockNow ..) (Verdict.clockNow_isPlain _ _)

theorem isValid_alike (handle : Handle) (state other : State) (alike : state.Alike other) :
    isValid handle state = isValid handle other :=
  congrArg (Objects.isClockValid · handle) alike.objects

theorem isOverrideEnabled_hygienic (handle : Handle) :
    Hygienic [.queryOverride] (isOverrideEnabled handle) :=
  hygienic_choice (isValid handle) (isValid_alike handle)
    (hygienic_attempt List.mem_cons_self (.queryOverride ..)
      (Verdict.isOverrideEnabled_isPlain _ _)) (hygienic_pure _)

theorem switchOverride_hygienic (handle : Handle) (enabled : Bool) :
    Hygienic [.switchOverride] (switchOverride handle enabled) := by
  refine hygienic_choice (isValid handle) (isValid_alike handle)
    (hygienic_attempt List.mem_cons_self (.switchOverride ..) ?_) (hygienic_pure _)
  cases enabled with
  | false => exact Verdict.changeOverride_isPlain _ _ _
  | true => exact Verdict.changeOverride_isPlain _ _ _

theorem setOverride_hygienic (handle : Handle) (value : Nanos) :
    Hygienic [.setOverride] (setOverride handle value) :=
  hygienic_choice (isValid handle) (isValid_alike handle)
    (hygienic_attempt List.mem_cons_self (.setOverride ..)
      (Verdict.changeOverride_isPlain _ _ _)) (hygienic_pure _)

theorem dispose_hygienic (handle : Handle) : Hygienic [.finiClock] (dispose handle) := by
  cases handle with
  | none => exact hygienic_pure none
  | some place =>
    exact (hygienic_attempt List.mem_cons_self (.finiClock ..) (Verdict.finiClock_isPlain _)).bind
      fun _ => hygienic_pure none

end ClockHandle

namespace OwnedClock

theorem now_hygienic (clock : OwnedClock) : Hygienic [.clockNow] clock.now :=
  (ClockHandle.now_hygienic clock.handle).bind fun _ =>
    hygienic_ofExcept fun _ rejected => Time.ofNanos_error rejected

end OwnedClock

namespace ContextHandle

theorem create_hygienic (slot : Slot) : Hygienic [] (create slot) :=
  (hygienic_setObjects fun objects => objects.setContext (.handle slot) none).bind fun _ =>
    hygienic_pure _

/-- The tasks of an initialisation. -/
def initTasks : List Task :=
  [.initOptions, .setDomain, .initContext, .finiOptions]

theorem dropOptions_isTidy : IsTidy dropOptions :=
  isTidy_discard _ (Verdict.finiOptions_isPlain _)

theorem makeOptions_hygienic (domain : Option DomainId) :
    Hygienic initTasks (makeOptions domain) := by
  refine (hygienic_attempt (by decide) (.initOptions ..) (Verdict.initOptions_isPlain _)).bind ?_
  intro _
  cases domain with
  | none => exact hygienic_pure ()
  | some domain =>
    exact hygienic_attempt_orCleanUp (by decide) (.setDomain ..) (Verdict.setDomain_isPlain _ _)
      dropOptions_isTidy

theorem init_hygienic (handle : Handle) (arguments : List String) (domain : Option DomainId) :
    Hygienic initTasks (init handle arguments domain) := by
  unfold init
  split
  · exact hygienic_reject _
  · split
    · exact hygienic_reject _
    · have rollback : IsTidy (discard "context rollback shutdown" (Call.shutdownContext handle)) :=
        isTidy_discard _ (Verdict.shutdownContext_isPlain handle)
      refine (makeOptions_hygienic domain).bind fun _ => ?_
      refine (hygienic_attempt_orCleanUp (by decide) (.initContext ..)
        (Verdict.initContext_isPlain ..) dropOptions_isTidy).bind fun _ => ?_
      refine (hygienic_attempt_orCleanUp (by decide) (.finiOptions ..)
        (Verdict.finiOptions_isPlain _) rollback).bind fun _ => ?_
      apply hygienic_modify
      · intro state
        apply State.Untroubled.write
        intro record member
        cases List.mem_singleton.mp member
        rfl
      · exact fun _ _ alike => alike.write _ _

theorem isValid_alike (handle : Handle) (state other : State) (alike : state.Alike other) :
    isValid handle state = isValid handle other :=
  congrArg (Objects.isContextValid · handle) alike.objects

theorem shutdown_hygienic (handle : Handle) : Hygienic [.shutdownContext] (shutdown handle) :=
  hygienic_choice (isValid handle) (isValid_alike handle)
    (hygienic_attempt List.mem_cons_self (.shutdownContext ..) (Verdict.shutdownContext_isPlain _))
    (hygienic_pure _)

theorem dispose_hygienic (handle : Handle) : Hygienic [.finiContext] (dispose handle) := by
  refine hygienic_choice (fun state => (state.objects.contextAt handle).isSome) ?_ ?_
    (hygienic_pure none)
  · exact fun state other alike =>
      congrArg (fun objects => (objects.contextAt handle).isSome) alike.objects
  · exact (hygienic_attempt List.mem_cons_self (.finiContext ..)
      (Verdict.finiContext_isPlain _)).bind fun _ => hygienic_pure none

theorem domain_hygienic (handle : Handle) : Hygienic [.contextDomain] (domain handle) :=
  hygienic_attempt List.mem_cons_self (.contextDomain ..) (Verdict.contextDomain_isPlain _ _)

theorem unparsed_hygienic (handle : Handle) :
    Hygienic [.countUnparsed, .unparsedArgument] (unparsed handle) :=
  (hygienic_attempt (by decide) (.countUnparsed ..) (Verdict.unparsedCount_isPlain _ _)).bind
    fun _ => hygienic_mapM fun _ => hygienic_attempt (by decide) (.unparsedArgument ..)
      (Verdict.unparsedArgument_isPlain _ _)

theorem shutdown_never_fails (handle : Handle) (state : State) :
    ∃ after, shutdown handle state = .ok () after ∧ isValid handle after = false := by
  have choice := choice_apply (isValid handle)
    (attempt .shutdownContext (Call.shutdownContext handle)) (pure ()) state
  cases valid : isValid handle state with
  | false =>
    rw [valid] at choice
    exact ⟨state, choice, valid⟩
  | true =>
    rw [valid] at choice
    obtain ⟨place, found, id, rfl, present, alive⟩ := Verdict.isContextValid_iff.mp valid
    have accepted := Verdict.shutdownContext_eq_ok.mpr
      ⟨place, found, ⟨rfl, present⟩, id, alive, rfl⟩
    refine ⟨_, choice.trans (attempt_of_ok accepted), ?_⟩
    simp [isValid, Objects.isContextValid, Objects.contextAt, State.commit, Objects.setContext,
      Context.isValid, Context.shutDown]

theorem dispose_of_not_valid (handle : Handle) (state : State)
    (invalid : isValid handle state = false) : ∃ after, dispose handle state = .ok none after := by
  have choice := choice_apply (fun state => (state.objects.contextAt handle).isSome)
    (attempt .finiContext (Call.finiContext handle) >>= fun _ => pure (none : Handle)) (pure none)
    state
  cases present : state.objects.contextAt handle with
  | none =>
    rw [present] at choice
    exact ⟨state, choice⟩
  | some found =>
    rw [present] at choice
    obtain ⟨place, rfl, here⟩ := Option.bind_eq_some_iff.mp present
    have invalidFound : found.isValid = false := by
      simpa [isValid, Objects.isContextValid, present] using invalid
    have accepted := Verdict.finiContext_eq_ok.mpr ⟨place, found, ⟨rfl, here⟩, invalidFound, rfl⟩
    exact ⟨_, choice.trans (bind_of_ok (attempt_of_ok accepted))⟩

theorem release_untroubled (handle : Handle) (state : State) :
    state.Untroubled (release handle state) := by
  obtain ⟨middle, ended, invalid⟩ := shutdown_never_fails handle state
  obtain ⟨after, endedToo⟩ := dispose_of_not_valid handle middle invalid
  have first := (shutdown_hygienic handle).ends state
  have second := (dispose_hygienic handle).ends middle
  rw [ended] at first
  rw [endedToo] at second
  rw [release, release_of_ok ended, release_of_ok endedToo]
  exact State.Untroubled.trans first second

theorem release_alike (handle : Handle) {first second : State} (alike : first.Alike second) :
    (release handle first).Alike (release handle second) :=
  alike_release (dispose_hygienic handle) (alike_release (shutdown_hygienic handle) alike _) _

theorem new_hygienic (slot : Slot) (arguments : List String) (domain : Option DomainId) :
    Hygienic initTasks (new slot arguments domain) := by
  refine ((create_hygienic slot).mono (fun _ member => nomatch member)).bind fun handle => ?_
  have release : Hygienic [] (modify (release handle)) :=
    hygienic_modify (release_untroubled handle) fun _ _ alike => release_alike handle alike
  refine (hygienic_orCleanUp (init_hygienic handle arguments domain) release.isTidy ?_).bind
    fun _ => hygienic_pure _
  exact fun _ _ middle _ _ => release_untroubled handle middle

end ContextHandle

namespace TimerHandle

theorem create_hygienic (slot : Slot) (clock context : Handle) (period : Nanos)
    (callback : Option Callback) :
    Hygienic [.initTimer] (create slot clock context period callback) :=
  (hygienic_setObjects fun objects => objects.setTimer (.handle slot) none).bind fun _ =>
    (hygienic_attempt List.mem_cons_self (.initTimer ..) (Verdict.initTimer_isPlain ..)).bind
      fun _ => hygienic_pure _

theorem isReady_hygienic (place : Place) : Hygienic [.timerIsReady] (isReady place) :=
  hygienic_attempt List.mem_cons_self (.timerIsReady ..) (Verdict.timerIsReady_isPlain ..)

theorem isCanceled_hygienic (place : Place) : Hygienic [.timerIsCanceled] (isCanceled place) :=
  hygienic_attempt List.mem_cons_self (.timerIsCanceled ..) (Verdict.timerIsCanceled_isPlain ..)

theorem reset_hygienic (place : Place) : Hygienic [.resetTimer] (reset place) :=
  hygienic_attempt List.mem_cons_self (.resetTimer ..) (Verdict.resetTimer_isPlain _)

theorem cancel_hygienic (place : Place) : Hygienic [.cancelTimer] (cancel place) :=
  hygienic_attempt List.mem_cons_self (.cancelTimer ..) (Verdict.cancelTimer_isPlain _)

theorem untilNextCall_hygienic (place : Place) :
    Hygienic [.untilNextCall] (untilNextCall place) :=
  hygienic_attempt List.mem_cons_self (.untilNextCall ..) (Verdict.timeUntilNextCall_isPlain ..)

theorem sinceLastCall_hygienic (place : Place) :
    Hygienic [.sinceLastCall] (sinceLastCall place) :=
  hygienic_attempt List.mem_cons_self (.sinceLastCall ..) (Verdict.timeSinceLastCall_isPlain ..)

theorem period_hygienic (place : Place) : Hygienic [.timerPeriod] (period place) :=
  hygienic_attempt List.mem_cons_self (.timerPeriod ..) (Verdict.timerPeriod_isPlain ..)

theorem exchangePeriod_hygienic (place : Place) (period : Nanos) :
    Hygienic [.exchangePeriod] (exchangePeriod place period) :=
  hygienic_attempt List.mem_cons_self (.exchangePeriod ..) (Verdict.exchangePeriod_isPlain ..)

theorem setPeriod_hygienic (place : Place) (period : Nanos) :
    Hygienic [.exchangePeriod] (setPeriod place period) :=
  (exchangePeriod_hygienic place period).bind fun _ => hygienic_pure ()

theorem callbackRecords_plain (callback : Option Callback) :
    ∀ record ∈ callbackRecords callback, record.isDiagnostic = false := by
  intro record member
  unfold callbackRecords at member
  split at member
  · cases List.mem_singleton.mp member
    rfl
  · cases member

theorem call_hygienic (place : Place) : Hygienic [.callTimer] (call place) := by
  refine (hygienic_attempt List.mem_cons_self (.callTimer ..) (Verdict.callTimer_isPlain _)).bind
    fun firing => ?_
  refine (hygienic_modify ?_ ?_).bind fun _ => hygienic_pure _
  · exact fun state => State.Untroubled.write (callbackRecords_plain firing.callback)
  · exact fun _ _ alike => alike.write _ _

theorem dispose_hygienic (handle : Handle) : Hygienic [.finiTimer] (dispose handle) := by
  cases handle with
  | none => exact hygienic_pure none
  | some place =>
    exact (hygienic_attempt List.mem_cons_self (.finiTimer ..) (Verdict.finiTimer_isPlain _)).bind
      fun _ => hygienic_pure none

theorem dispose_never_fails (handle : Handle) (state : State) :
    ∃ after, dispose handle state = .ok none after := by
  cases handle with
  | none => exact ⟨state, rfl⟩
  | some place => exact ⟨_, bind_of_ok (attempt_of_ok rfl)⟩

theorem release_untroubled (handle : Handle) (state : State) :
    state.Untroubled (release handle state) := by
  obtain ⟨after, ended⟩ := dispose_never_fails handle state
  have first := (dispose_hygienic handle).ends state
  rw [ended] at first
  rw [release, release_of_ok ended]
  exact first

theorem release_alike (handle : Handle) {first second : State} (alike : first.Alike second) :
    (release handle first).Alike (release handle second) :=
  alike_release (dispose_hygienic handle) alike _

end TimerHandle

namespace TimeSource

theorem publishTime_hygienic (source : TimeSource) : Hygienic [.setOverride] source.publishTime :=
  hygienic_forM fun _ => ClockHandle.setOverride_hygienic _ _

theorem publishActive_hygienic (source : TimeSource) :
    Hygienic [.switchOverride] source.publishActive := by
  refine (hygienic_modify ?_ ?_).bind fun _ =>
    hygienic_forM fun _ => ClockHandle.switchOverride_hygienic _ _
  · intro state
    apply State.Untroubled.write
    intro record member
    cases List.mem_singleton.mp member
    rfl
  · exact fun _ _ alike => alike.write _ _

theorem attach_hygienic (source : TimeSource) (slot : Slot) (clock : OwnedClock) :
    Hygienic [.setOverride, .switchOverride] (source.attach slot clock) := by
  unfold attach
  split
  · refine ((ClockHandle.setOverride_hygienic _ _).mono (by decide)).bind fun _ => ?_
    refine ((ClockHandle.switchOverride_hygienic _ _).mono (by decide)).bind fun _ => ?_
    exact hygienic_pure _
  · exact hygienic_reject _

end TimeSource

end RosClient
