import RosClient.Handle.Context
import RosClient.Handle.Timer
import RosClient.Proofs.Handle.Action
import RosClient.Proofs.Operation.Objects
import RosClient.TimeSource

namespace RosClient

/-- If the call goes through, it leaves a view of the objects as it is. -/
def Verdict.Keeps {α β : Type} (view : Objects → β) (verdict : Verdict α) : Prop :=
  ∀ state commit, verdict state = .ok commit → view commit.objects = view state.objects

/-- An action that leaves a view of the objects as it is. -/
def Keeps {α β : Type} (view : Objects → β) (action : Action α) : Prop :=
  ∀ state, view (stateOf (action state)).objects = view state.objects

section

variable {α β γ : Type} {view : Objects → β}

theorem Verdict.Looks.keeps {verdict : Verdict α} (looks : verdict.Looks) :
    verdict.Keeps view := by
  intro state commit accepted
  rw [looks.objects_eq accepted]

theorem Verdict.keeps_of_changes {ε : Type} {set : Objects → Place → ε → Objects}
    {pointer : Option Place} {call : Call α} {verdict : Verdict α}
    [Settles call Fault.status verdict] {output : α → Option Value}
    (changes : ∀ state : State, Objects.Changes set pointer state.objects
      (state.respond call output).state.objects)
    (hidden : Objects.Hides view set pointer) : verdict.Keeps view := by
  intro state commit accepted
  have kept := (changes state).keeps view hidden
  rw [State.respond_of_ok accepted] at kept
  exact kept

theorem keeps_pure (value : α) : Keeps view (pure value : Action α) :=
  fun _ => rfl

theorem keeps_throw (e : Error) : Keeps view (throw e : Action α) :=
  fun _ => rfl

theorem keeps_attempt {task : Task} {call : Call α} {status : Fault → Status} {verdict : Verdict α}
    [Settles call status verdict] (keeps : verdict.Keeps view) :
    Keeps view (attempt task call) := by
  intro state
  cases outcome : verdict state with
  | ok commit =>
    rw [attempt_of_ok outcome]
    exact keeps state commit outcome
  | error fault =>
    rw [attempt_of_error outcome]
    rfl

theorem keeps_discard (cleanUp : String) {call : Call Unit} {status : Fault → Status}
    {verdict : Verdict Unit} [Settles call status verdict] (keeps : verdict.Keeps view) :
    Keeps view (discard cleanUp call) := by
  intro state
  cases outcome : verdict state with
  | ok commit =>
    rw [discard_of_ok outcome]
    exact keeps state commit outcome
  | error fault =>
    rw [discard_of_error outcome]
    rfl

theorem keeps_modify (change : State → State)
    (same : ∀ state, view (change state).objects = view state.objects) :
    Keeps view (modify change : Action Unit) :=
  same

theorem keeps_setObjects (change : Objects → Objects)
    (same : ∀ objects, view (change objects) = view objects) :
    Keeps view (modify fun state => { state with objects := change state.objects } :
      Action Unit) :=
  keeps_modify _ fun state => same state.objects

theorem Keeps.bind {action : Action α} {next : α → Action γ} (keeps : Keeps view action)
    (rest : ∀ value, Keeps view (next value)) : Keeps view (action >>= next) := by
  intro state
  have first := keeps state
  cases ended : action state with
  | ok value middle =>
    rw [ended] at first
    rw [bind_of_ok ended, rest value middle]
    exact first
  | error e middle =>
    rw [ended] at first
    rw [bind_of_error ended]
    exact first

theorem keeps_choice (test : State → Bool) {first second : Action α} (keeps : Keeps view first)
    (keepsElse : Keeps view second) :
    Keeps view (get >>= fun state => if test state then first else second) := by
  intro state
  rw [choice_apply]
  split
  · exact keeps state
  · exact keepsElse state

theorem keeps_forM {entries : List γ} {each : γ → Action Unit}
    (keeps : ∀ entry ∈ entries, Keeps view (each entry)) : Keeps view (entries.forM each) := by
  induction entries with
  | nil => exact keeps_pure ()
  | cons entry rest ih =>
    exact (keeps entry List.mem_cons_self).bind fun _ =>
      ih fun later member => keeps later (List.mem_cons_of_mem _ member)

theorem keeps_mapM {entries : List γ} {each : γ → Action α}
    (keeps : ∀ entry, Keeps view (each entry)) : Keeps view (entries.mapM each) := by
  induction entries with
  | nil => exact keeps_pure []
  | cons entry rest ih =>
    rw [List.mapM_cons]
    exact (keeps entry).bind fun _ => ih.bind fun _ => keeps_pure _

theorem keeps_orCleanUp {action : Action α} {cleanUp : Action Unit} (keeps : Keeps view action)
    (keepsToo : Keeps view cleanUp) : Keeps view (orCleanUp action cleanUp) := by
  intro state
  have first := keeps state
  cases ended : action state with
  | ok value after =>
    rw [ended] at first
    rw [orCleanUp_of_ok ended]
    exact first
  | error e middle =>
    rw [ended] at first
    rw [orCleanUp_of_error ended]
    exact (keepsToo middle).trans first

theorem keeps_release {action : Action α} (keeps : Keeps view action) (state : State)
    (object : String) : view (state.release object action).objects = view state.objects := by
  have first := keeps state
  unfold State.release
  cases ended : action state with
  | ok value after =>
    rw [ended] at first
    exact first
  | error e after =>
    rw [ended] at first
    exact first

end

/-- Which places have a clock with storage. -/
def Objects.stored (objects : Objects) (place : Place) : Bool :=
  (objects.clocks place).storage.isSome

theorem stored_setClock_self (objects : Objects) (place : Place) (clock : Clock) :
    (objects.setClock place clock).stored place = clock.storage.isSome := by
  simp only [Objects.stored, Objects.setClock, replace_self]

theorem stored_setClock_of_ne (objects : Objects) {place other : Place} (clock : Clock)
    (apart : other ≠ place) :
    (objects.setClock place clock).stored other = objects.stored other := by
  simp only [Objects.stored, Objects.setClock, replace_of_ne _ _ apart]

theorem stored_setClock_eq {objects : Objects} {place : Place} {clock : Clock}
    (same : clock.storage.isSome = objects.stored place) :
    (objects.setClock place clock).stored = objects.stored := by
  funext other
  by_cases here : other = place
  · rw [here, stored_setClock_self, same]
  · exact stored_setClock_of_ne objects clock here

section

open Objects (Hides setOptions setContextAndId setClock setTimer)

theorem stored_hides_options (pointer : Option Place) :
    Hides Objects.stored setOptions pointer :=
  fun _ _ _ _ => rfl

theorem stored_hides_contexts (pointer : Option Place) :
    Hides Objects.stored setContextAndId pointer :=
  fun _ _ _ _ => rfl

theorem stored_hides_timers (pointer : Option Place) : Hides Objects.stored setTimer pointer :=
  fun _ _ _ _ => rfl

variable {β : Type} {view : Objects → β}

namespace Verdict

theorem initOptions_keeps {options : Option Place} (hidden : Hides view setOptions options) :
    (initOptions options).Keeps view :=
  keeps_of_changes (OptionsCall.perform_objects options · .init) hidden

theorem setDomain_keeps {options : Option Place} (hidden : Hides view setOptions options)
    (domain : DomainId) : (setDomain options domain).Keeps view :=
  keeps_of_changes (OptionsCall.perform_objects options · (.setDomain domain)) hidden

theorem finiOptions_keeps {options : Option Place} (hidden : Hides view setOptions options) :
    (finiOptions options).Keeps view :=
  keeps_of_changes (OptionsCall.perform_objects options · .fini) hidden

theorem initContext_keeps {context : Option Place} (hidden : Hides view setContextAndId context)
    (count : Int) (vector : Option (List (Option (List UInt8)))) (options : Option Place) :
    (initContext count vector options context).Keeps view :=
  keeps_of_changes (initContext_objects count vector options context) hidden

theorem shutdownContext_keeps {context : Option Place}
    (hidden : Hides view setContextAndId context) : (shutdownContext context).Keeps view :=
  keeps_of_changes (ContextCall.perform_objects context · .shutdown) hidden

theorem finiContext_keeps {context : Option Place} (hidden : Hides view setContextAndId context) :
    (finiContext context).Keeps view :=
  keeps_of_changes (ContextCall.perform_objects context · .fini) hidden

theorem initClock_keeps {clock : Option Place} (hidden : Hides view setClock clock)
    (type : ClockType) : (initClock type clock).Keeps view :=
  keeps_of_changes (ClockCall.perform_objects clock · (.init type)) hidden

theorem finiClock_keeps {clock : Option Place} (hidden : Hides view setClock clock) :
    (finiClock clock).Keeps view :=
  keeps_of_changes (ClockCall.perform_objects clock · .fini) hidden

/-- A view that is kept by every change of the override behind a pointer. -/
def KeptByOverrides (view : Objects → β) (clock : Option Place) : Prop :=
  ∀ action change, (changeOverride action change clock).Keeps view

theorem keptByOverrides_of_hides {clock : Option Place} (hidden : Hides view setClock clock) :
    KeptByOverrides view clock :=
  fun action change => keeps_of_changes (changeOverride_objects action change clock) hidden

theorem keptByOverrides_stored (clock : Option Place) : KeptByOverrides Objects.stored clock := by
  intro action change state commit accepted
  obtain ⟨place, _, override, _, rfl⟩ := changeOverride_eq_ok.mp accepted
  exact stored_setClock_eq (Option.isSome_map ..)

theorem initTimer_keeps {timer : Option Place} (hidden : Hides view setTimer timer)
    (clock context : Option Place) (period : Nanos) (callback : Option Callback) :
    (initTimer timer clock context period callback).Keeps view :=
  keeps_of_changes (initTimer_objects timer clock context period callback) hidden

theorem resetTimer_keeps {timer : Option Place} (hidden : Hides view setTimer timer) :
    (resetTimer timer).Keeps view :=
  keeps_of_changes (TimerCall.perform_objects timer · .reset) hidden

theorem cancelTimer_keeps {timer : Option Place} (hidden : Hides view setTimer timer) :
    (cancelTimer timer).Keeps view :=
  keeps_of_changes (TimerCall.perform_objects timer · .cancel) hidden

theorem exchangePeriod_keeps {timer : Option Place} (hidden : Hides view setTimer timer)
    (period : Nanos) (output : Bool) : (exchangePeriod timer period output).Keeps view :=
  keeps_of_changes (TimerCall.perform_objects timer · (.exchangePeriod period output)) hidden

theorem finiTimer_keeps {timer : Option Place} (hidden : Hides view setTimer timer) :
    (finiTimer timer).Keeps view :=
  keeps_of_changes (TimerCall.perform_objects timer · .fini) hidden

theorem callTimer_keeps {timer : Option Place} (hidden : Hides view setTimer timer) :
    (callTimer timer).Keeps view := by
  intro state commit accepted
  obtain ⟨place, _, ⟨here, _⟩, _, _, _, _, _, _, rfl⟩ := callTimer_eq_ok.mp accepted
  exact hidden state.objects place _ here

end Verdict

namespace ClockHandle

theorem create_keeps {slot : Slot} (hidden : Hides view setClock (some (.handle slot)))
    (type : ClockType) : Keeps view (create slot type) :=
  (keeps_setObjects (fun objects => objects.setClock (.handle slot) .zero)
    fun objects => hidden objects _ _ rfl).bind fun _ =>
      (keeps_attempt (Verdict.initClock_keeps hidden type)).bind fun _ => keeps_pure _

theorem now_keeps (handle : Handle) : Keeps view (now handle) :=
  keeps_attempt (Verdict.clockNow_looks true).keeps

theorem isOverrideEnabled_keeps (handle : Handle) : Keeps view (isOverrideEnabled handle) :=
  keeps_choice (isValid handle) (keeps_attempt (Verdict.isOverrideEnabled_looks true).keeps)
    (keeps_pure false)

theorem switchOverride_keeps {handle : Handle} (kept : Verdict.KeptByOverrides view handle)
    (enabled : Bool) : Keeps view (switchOverride handle enabled) := by
  refine keeps_choice (isValid handle) (keeps_attempt ?_) (keeps_pure ())
  cases enabled with
  | false => exact kept _ _
  | true => exact kept _ _

theorem setOverride_keeps {handle : Handle} (kept : Verdict.KeptByOverrides view handle)
    (value : Nanos) : Keeps view (setOverride handle value) :=
  keeps_choice (isValid handle) (keeps_attempt (kept _ _)) (keeps_pure ())

theorem dispose_keeps {handle : Handle} (hidden : Hides view setClock handle) :
    Keeps view (dispose handle) := by
  cases handle with
  | none => exact keeps_pure none
  | some place =>
    exact (keeps_attempt (Verdict.finiClock_keeps hidden)).bind fun _ => keeps_pure none

end ClockHandle

namespace OwnedClock

theorem now_keeps (clock : OwnedClock) : Keeps view clock.now := by
  refine (ClockHandle.now_keeps clock.handle).bind ?_
  intro nanoseconds
  unfold Time.ofNanos
  split
  · exact keeps_pure _
  · exact keeps_throw _

theorem release_keeps {clock : OwnedClock} (hidden : Hides view setClock clock.handle)
    (state : State) : view (clock.release state).objects = view state.objects :=
  keeps_release (ClockHandle.dispose_keeps hidden) _ _

end OwnedClock

namespace ContextHandle

theorem create_keeps {slot : Slot}
    (hidden : Hides view setContextAndId (some (.handle slot))) : Keeps view (create slot) :=
  (keeps_setObjects (fun objects => objects.setContext (.handle slot) none)
    fun objects => hidden objects _ (none, objects.nextId) rfl).bind fun _ => keeps_pure _

theorem dropOptions_keeps (hidden : Hides view setOptions transientOptions) :
    Keeps view dropOptions :=
  keeps_discard _ (Verdict.finiOptions_keeps hidden)

theorem makeOptions_keeps (hidden : Hides view setOptions transientOptions)
    (domain : Option DomainId) : Keeps view (makeOptions domain) := by
  refine (keeps_attempt (Verdict.initOptions_keeps hidden)).bind fun _ => ?_
  cases domain with
  | none => exact keeps_pure ()
  | some domain =>
    exact keeps_orCleanUp (keeps_attempt (Verdict.setDomain_keeps hidden domain))
      (dropOptions_keeps hidden)

theorem init_keeps {handle : Handle} (options : Hides view setOptions transientOptions)
    (hidden : Hides view setContextAndId handle) (arguments : List String)
    (domain : Option DomainId) : Keeps view (init handle arguments domain) := by
  unfold init
  split
  · exact keeps_throw _
  · split
    · exact keeps_throw _
    · refine (makeOptions_keeps options domain).bind fun _ => ?_
      refine (keeps_orCleanUp (keeps_attempt (Verdict.initContext_keeps hidden _ _ _))
        (dropOptions_keeps options)).bind fun _ => ?_
      refine (keeps_orCleanUp (keeps_attempt (Verdict.finiOptions_keeps options))
        (keeps_discard _ (Verdict.shutdownContext_keeps hidden))).bind fun _ => ?_
      exact keeps_modify _ fun _ => rfl

theorem shutdown_keeps {handle : Handle} (hidden : Hides view setContextAndId handle) :
    Keeps view (shutdown handle) :=
  keeps_choice (isValid handle) (keeps_attempt (Verdict.shutdownContext_keeps hidden))
    (keeps_pure ())

theorem dispose_keeps {handle : Handle} (hidden : Hides view setContextAndId handle) :
    Keeps view (dispose handle) :=
  keeps_choice (fun state => (state.objects.contextAt handle).isSome)
    ((keeps_attempt (Verdict.finiContext_keeps hidden)).bind fun _ => keeps_pure none)
    (keeps_pure none)

theorem domain_keeps (handle : Handle) : Keeps view (domain handle) :=
  keeps_attempt (Verdict.contextDomain_looks _ _).keeps

theorem unparsed_keeps (handle : Handle) : Keeps view (unparsed handle) :=
  (keeps_attempt (Verdict.unparsedCount_looks _ _).keeps).bind fun _ =>
    keeps_mapM fun _ => keeps_attempt (Verdict.unparsedArgument_looks _ _).keeps

theorem release_keeps {handle : Handle} (hidden : Hides view setContextAndId handle)
    (state : State) : view (release handle state).objects = view state.objects :=
  (keeps_release (dispose_keeps hidden) _ _).trans (keeps_release (shutdown_keeps hidden) _ _)

theorem new_keeps {slot : Slot} (options : Hides view setOptions transientOptions)
    (hidden : Hides view setContextAndId (some (.handle slot))) (arguments : List String)
    (domain : Option DomainId) : Keeps view (new slot arguments domain) := by
  intro state
  have made : create slot state = .ok (some (.handle slot)) _ := bind_of_ok rfl
  have created := create_keeps hidden state
  rw [made] at created
  unfold new
  rw [bind_of_ok made]
  refine Eq.trans ?_ created
  exact (keeps_orCleanUp (init_keeps options hidden arguments domain)
    (keeps_modify (release _) (release_keeps hidden))).bind (fun _ => keeps_pure _) _

end ContextHandle

namespace TimerHandle

theorem create_keeps {slot : Slot} (hidden : Hides view setTimer (some (.handle slot)))
    (clock context : Handle) (period : Nanos) (callback : Option Callback) :
    Keeps view (create slot clock context period callback) :=
  (keeps_setObjects (fun objects => objects.setTimer (.handle slot) none)
    fun objects => hidden objects _ _ rfl).bind
      fun _ => (keeps_attempt (Verdict.initTimer_keeps hidden _ _ _ _)).bind fun _ => keeps_pure _

variable {place : Place}

theorem exchangePeriod_keeps (hidden : Hides view setTimer (some place)) (period : Nanos) :
    Keeps view (exchangePeriod place period) :=
  keeps_attempt (Verdict.exchangePeriod_keeps hidden _ _)

theorem setPeriod_keeps (hidden : Hides view setTimer (some place)) (period : Nanos) :
    Keeps view (setPeriod place period) :=
  (exchangePeriod_keeps hidden period).bind fun _ => keeps_pure ()

theorem call_keeps (hidden : Hides view setTimer (some place)) : Keeps view (call place) := by
  refine (keeps_attempt (Verdict.callTimer_keeps hidden)).bind fun firing => ?_
  refine Keeps.bind ?_ fun _ => keeps_pure _
  exact keeps_modify _ fun _ => rfl

theorem dispose_keeps {handle : Handle} (hidden : Hides view setTimer handle) :
    Keeps view (dispose handle) := by
  cases handle with
  | none => exact keeps_pure none
  | some place =>
    exact (keeps_attempt (Verdict.finiTimer_keeps hidden)).bind fun _ => keeps_pure none

theorem release_keeps {handle : Handle} (hidden : Hides view setTimer handle) (state : State) :
    view (release handle state).objects = view state.objects :=
  keeps_release (dispose_keeps hidden) _ _

end TimerHandle

namespace TimeSource

variable {source : TimeSource}

theorem publishTime_keeps
    (kept : ∀ entry ∈ source.clocks, Verdict.KeptByOverrides view entry.2.handle) :
    Keeps view source.publishTime :=
  keeps_forM fun entry member => ClockHandle.setOverride_keeps (kept entry member) _

theorem publishActive_keeps
    (kept : ∀ entry ∈ source.clocks, Verdict.KeptByOverrides view entry.2.handle) :
    Keeps view source.publishActive := by
  refine Keeps.bind ?_ fun _ => keeps_forM fun entry member =>
    ClockHandle.switchOverride_keeps (kept entry member) _
  exact keeps_modify _ fun _ => rfl

theorem attach_keeps {clock : OwnedClock} (kept : Verdict.KeptByOverrides view clock.handle)
    (slot : Slot) : Keeps view (source.attach slot clock) := by
  unfold attach
  split
  · exact (ClockHandle.setOverride_keeps kept _).bind fun _ =>
      (ClockHandle.switchOverride_keeps kept _).bind fun _ => keeps_pure _
  · exact keeps_throw _

end TimeSource

end

end RosClient
