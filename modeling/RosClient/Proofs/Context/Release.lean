import RosClient.Handle.Context
import RosClient.Proofs.Verdict.Context
import RosClient.Proofs.Handle.Action

namespace RosClient

theorem Objects.setContext_setContext (objects : Objects) (place : Place)
    (first second : Option Context) :
    (objects.setContext place first).setContext place second =
      objects.setContext place second := by
  simp only [setContext, replace_replace]

theorem State.committed_commit (state : State) (objects : Objects) :
    state.committed (state.commit objects) = { state with objects, calls := state.calls + 1 } := by
  simp only [committed, commit, write, List.append_nil]

namespace Verdict

theorem finiContext_of_valid {state : State} {place : Place} {context : Context}
    (present : state.objects.contexts place = some context) (valid : context.isValid = true) :
    finiContext (some place) state = .error .contextValid := by
  have found := findContext_eq_ok.mpr ⟨rfl, present⟩
  simp only [finiContext, found, bind, Except.bind, valid, ↓reduceIte]

end Verdict

namespace ContextHandle

variable {handle : Handle} {state : State} {place : Place} {context : Context}

theorem shutdown_of_not_valid (invalid : isValid handle state = false) :
    shutdown handle state = .ok () state :=
  choice_of_false invalid _ _

theorem isValid_of_some (present : state.objects.contexts place = some context) :
    isValid (some place) state = context.isValid := by
  simp only [isValid, Objects.isContextValid, Objects.contextAt, Option.bind_some, present,
    Option.any_some]

theorem shutdown_of_valid {id : Nat} (present : state.objects.contexts place = some context)
    (alive : context.instance? = some id) :
    shutdown (some place) state = .ok () (state.committed
      (state.commit (state.objects.setContext place (some context.shutDown))
        [.contextShutDown id])) := by
  have valid : isValid (some place) state = true := by
    rw [isValid_of_some present, Context.isValid, alive]
    rfl
  exact (choice_of_true valid _ _).trans (attempt_of_ok
    (Verdict.shutdownContext_eq_ok.mpr ⟨place, context, ⟨rfl, present⟩, id, alive, rfl⟩))

theorem dispose_apply (handle : Handle) (state : State) :
    dispose handle state =
      (if (state.objects.contextAt handle).isSome then
        attempt .finiContext (Call.finiContext handle) >>= fun _ => pure none
      else pure none : Action Handle) state :=
  choice_apply (fun state => (state.objects.contextAt handle).isSome)
    (attempt .finiContext (Call.finiContext handle) >>= fun _ => pure none) (pure none) state

theorem dispose_of_none (absent : state.objects.contextAt handle = none) :
    dispose handle state = .ok none state := by
  rw [dispose_apply, absent]
  rfl

theorem dispose_of_shut (present : state.objects.contexts place = some context)
    (shut : context.isValid = false) :
    dispose (some place) state = .ok none (state.committed
      (state.commit (state.objects.setContext place none)
        (Verdict.releaseRecords context.arguments))) := by
  have there : state.objects.contextAt (some place) = some context := present
  rw [dispose_apply, there]
  exact bind_of_ok (attempt_of_ok
    (Verdict.finiContext_eq_ok.mpr ⟨place, context, ⟨rfl, present⟩, shut, rfl⟩))

theorem dispose_of_valid (present : state.objects.contexts place = some context)
    (valid : context.isValid = true) :
    dispose (some place) state =
      .error (.failed .runtime .invalidArgument (failureMessage .finiContext .contextValid))
        (state.afterFailure .contextValid
          (.failure (failureMessage .finiContext .contextValid))) := by
  have there : state.objects.contextAt (some place) = some context := present
  rw [dispose_apply, there]
  change (attempt .finiContext (Call.finiContext (some place)) >>= _) state = _
  rw [bind_of_error (attempt_of_error (Verdict.finiContext_of_valid present valid))]
  rfl

/-- What is reported when a context is released at the end of its owner: its shutdown, if it is
still valid, and its arguments. -/
def endRecords (context : Context) : List LogRecord :=
  (context.instance?.map LogRecord.contextShutDown).toList ++
    Verdict.releaseRecords context.arguments

theorem release_of_none (absent : state.objects.contextAt handle = none) :
    release handle state = state := by
  have invalid : isValid handle state = false := by
    simp only [isValid, Objects.isContextValid, absent, Option.any_none]
  rw [release, release_of_ok (shutdown_of_not_valid invalid),
    release_of_ok (dispose_of_none absent)]

theorem release_of_some (present : state.objects.contexts place = some context) :
    ∃ calls, release (some place) state =
      { state with
        objects := state.objects.setContext place none
        log := state.log ++ endRecords context
        calls } := by
  cases alive : context.instance? with
  | none =>
    have shut : context.isValid = false := by rw [Context.isValid, alive]; rfl
    have invalid : isValid (some place) state = false := (isValid_of_some present).trans shut
    refine ⟨state.calls + 1, ?_⟩
    rw [release, release_of_ok (shutdown_of_not_valid invalid),
      release_of_ok (dispose_of_shut present shut), endRecords, alive]
    rfl
  | some id =>
    let middle := state.committed
      (state.commit (state.objects.setContext place (some context.shutDown))
        [.contextShutDown id])
    have here : middle.objects.contexts place = some context.shutDown :=
      replace_self state.objects.contexts place _
    have disposed : dispose (some place) middle = .ok none _ := dispose_of_shut here rfl
    refine ⟨state.calls + 2, ?_⟩
    rw [release, release_of_ok (shutdown_of_valid present alive), release_of_ok disposed,
      endRecords, alive]
    simp only [middle, State.committed, State.commit, State.write, Objects.setContext_setContext,
      List.append_assoc]
    rfl

end ContextHandle

end RosClient
