import RosClient.Proofs.Context.Event
import RosClient.Proofs.Handle.Keeps

namespace RosClient

open Objects (Hides setOptions)

theorem contextView_hides_options (pointer : Option Place) :
    Hides Objects.contextView setOptions pointer :=
  fun _ _ _ _ => rfl

theorem ContextChange.of_eq {before middle after : ContextView}
    {event : Option (Place × ContextEvent)} (change : ContextChange middle after event)
    (same : middle = before) : ContextChange before after event :=
  same ▸ change

theorem ContextChange.trans_eq {before middle after : ContextView}
    {event : Option (Place × ContextEvent)} (change : ContextChange before middle event)
    (same : after = middle) : ContextChange before after event :=
  same ▸ change

theorem ContextChange.trans_release {before middle after : ContextView} {place : Place}
    {event : ContextEvent} (first : ContextChange before middle (some (place, event)))
    (second : ContextChange middle after (some (place, .release)))
    (free : event.ids = 0) : ContextChange before after (some (place, .release)) := by
  cases first with
  | happens _ others counted =>
    cases second with
    | happens made othersThen countedThen =>
      refine .happens made ?_ ?_
      · exact fun other apart => (othersThen other apart).trans (others other apart)
      · rw [countedThen, counted, free]
        rfl

namespace ContextHandle

theorem finiOptions_of_initContext {count : Int} {vector : Option (List (Option (List UInt8)))}
    {context : Option Place} {state : State} {commit : Commit Unit}
    (accepted : Verdict.initContext count vector transientOptions context state = .ok commit) :
    ∃ last, Verdict.finiOptions transientOptions (state.committed commit) = .ok last ∧
      last.objects.contextView = commit.objects.contextView := by
  obtain ⟨_, _, _, owner, requested, ⟨here, found⟩, _, _, _, _, _, _, rfl⟩ :=
    Verdict.initContext_eq_ok.mp accepted
  exact ⟨_, Verdict.finiOptions_eq_ok.mpr ⟨owner, requested, ⟨here, found⟩, rfl⟩, rfl⟩

/-- What an initialisation does once it has its options. -/
def initWithOptions (handle : Handle) (arguments : List String) : Action Unit := do
  let items := arguments.map fun argument => some (Text.Utf8.encode argument)
  orCleanUp (attempt .initContext
    (Call.initContext arguments.length (some items) transientOptions handle)) dropOptions
  orCleanUp (attempt .finiOptions (Call.finiOptions transientOptions))
    (discard "context rollback shutdown" (Call.shutdownContext handle))
  modify fun state => state.write [.contextReady (state.objects.contextId handle) arguments.length]

theorem initWithOptions_change (place : Place) (arguments : List String) (state : State) :
    (∃ e after, initWithOptions (some place) arguments state = .error e after ∧
      after.objects.contextView = state.objects.contextView) ∨
    ∃ after, initWithOptions (some place) arguments state = .ok () after ∧
      ContextChange state.objects.contextView after.objects.contextView (some (place, .init)) := by
  cases outcome : Verdict.initContext arguments.length
      (some (arguments.map fun argument => some (Text.Utf8.encode argument)))
      transientOptions (some place) state with
  | error fault =>
    let middle := state.afterFailure fault (.failure (failureMessage .initContext fault))
    have failed : orCleanUp (attempt .initContext (Call.initContext arguments.length _
        transientOptions (some place))) dropOptions state =
          .error _ (stateOf (dropOptions middle)) :=
      orCleanUp_of_error (attempt_of_error outcome)
    have dropped := dropOptions_keeps (contextView_hides_options transientOptions) middle
    exact Or.inl ⟨_, _, bind_of_error failed, dropped⟩
  | ok commit =>
    have initialised : orCleanUp (attempt .initContext (Call.initContext arguments.length _
        transientOptions (some place))) dropOptions state = .ok () (state.committed commit) :=
      orCleanUp_of_ok (attempt_of_ok outcome)
    obtain ⟨last, finished, same⟩ := finiOptions_of_initContext outcome
    have released : orCleanUp (attempt .finiOptions (Call.finiOptions transientOptions))
        (discard "context rollback shutdown" (Call.shutdownContext (some place)))
        (state.committed commit) = .ok () ((state.committed commit).committed last) :=
      orCleanUp_of_ok (attempt_of_ok finished)
    refine Or.inr ⟨_, (bind_of_ok initialised).trans (bind_of_ok released), ?_⟩
    exact (initContext_change outcome).trans_eq same

/-- An initialisation fails and leaves all contexts, or it is one. -/
theorem init_change (handle : Handle) (arguments : List String) (domain : Option DomainId)
    (state : State) :
    (∃ e after, init handle arguments domain state = .error e after ∧
      after.objects.contextView = state.objects.contextView) ∨
    ∃ place after, handle = some place ∧ init handle arguments domain state = .ok () after ∧
      ContextChange state.objects.contextView after.objects.contextView (some (place, .init)) := by
  unfold init
  cases rejection? arguments with
  | some found => exact Or.inl ⟨_, state, rfl, rfl⟩
  | none =>
    cases handle with
    | none => exact Or.inl ⟨_, state, rfl, rfl⟩
    | some place =>
      have kept := makeOptions_keeps (contextView_hides_options transientOptions) domain state
      change (∃ e after, (makeOptions domain >>= fun _ => initWithOptions (some place) arguments)
          state = .error e after ∧ _) ∨
        ∃ there after, some place = some there ∧
          (makeOptions domain >>= fun _ => initWithOptions (some place) arguments) state =
            .ok () after ∧ _
      cases made : makeOptions domain state with
      | error e middle =>
        rw [made] at kept
        exact Or.inl ⟨e, middle, bind_of_error made, kept⟩
      | ok _ middle =>
        rw [made] at kept
        rw [bind_of_ok made]
        rcases initWithOptions_change place arguments middle with
          ⟨e, after, failed, same⟩ | ⟨after, ended, change⟩
        · exact Or.inl ⟨e, after, failed, same.trans kept⟩
        · exact Or.inr ⟨place, after, rfl, ended, change.of_eq kept⟩

/-- Shutting down a context never fails. -/
theorem shutdown_change (place : Place) (state : State) :
    ∃ after, shutdown (some place) state = .ok () after ∧
      ContextChange state.objects.contextView after.objects.contextView
        (some (place, .shutdown)) := by
  have choice := choice_apply (isValid (some place))
    (attempt .shutdownContext (Call.shutdownContext (some place))) (pure ()) state
  cases valid : isValid (some place) state with
  | true =>
    rw [valid] at choice
    obtain ⟨_, found, id, here, present, alive⟩ := Verdict.isContextValid_iff.mp valid
    cases here
    have accepted := Verdict.shutdownContext_eq_ok.mpr
      ⟨place, found, ⟨rfl, present⟩, id, alive, rfl⟩
    exact ⟨_, choice.trans (attempt_of_ok accepted), shutdownContext_change accepted⟩
  | false =>
    rw [valid] at choice
    refine ⟨state, choice, .happens ?_ (fun _ _ => rfl) rfl⟩
    change state.objects.contexts place = (state.objects.contexts place).map Context.shutDown
    cases present : state.objects.contexts place with
    | none => rfl
    | some context =>
      have shut : context.instance? = none := by
        simpa [isValid, Objects.isContextValid, Objects.contextAt, present, Context.isValid]
          using valid
      rw [Option.map_some, Context.shutDown_of_none shut]

/-- Disposing of a context is refused as long as it is valid; otherwise it is released. -/
theorem dispose_change (place : Place) (state : State) :
    (∃ context e after, state.objects.contexts place = some context ∧ context.isValid = true ∧
      dispose (some place) state = .error e after ∧
      after.objects.contextView = state.objects.contextView) ∨
    ∃ after, dispose (some place) state = .ok none after ∧
      ContextChange state.objects.contextView after.objects.contextView
        (some (place, .release)) := by
  have choice := choice_apply (fun state => (state.objects.contextAt (some place)).isSome)
    (attempt .finiContext (Call.finiContext (some place)) >>= fun _ => pure (none : Handle))
    (pure none) state
  cases present : state.objects.contexts place with
  | none =>
    have absent : state.objects.contextAt (some place) = none := present
    rw [absent] at choice
    exact Or.inr ⟨state, choice, .happens present (fun _ _ => rfl) rfl⟩
  | some context =>
    have there : state.objects.contextAt (some place) = some context := present
    rw [there] at choice
    cases valid : context.isValid with
    | true =>
      have found := Verdict.findContext_eq_ok.mpr ⟨rfl, present⟩
      have refused : Verdict.finiContext (some place) state = .error .contextValid := by
        simp only [Verdict.finiContext, found, bind, Except.bind, valid, ↓reduceIte]
      exact Or.inl ⟨context, _, _, rfl, valid,
        choice.trans (bind_of_error (attempt_of_error refused)), rfl⟩
    | false =>
      have accepted := Verdict.finiContext_eq_ok.mpr ⟨place, context, ⟨rfl, present⟩, valid, rfl⟩
      exact Or.inr ⟨_, choice.trans (bind_of_ok (attempt_of_ok accepted)),
        finiContext_change accepted⟩

/-- At the end of an owned context it is released. -/
theorem release_change (place : Place) (state : State) :
    ContextChange state.objects.contextView
      (release (some place) state).objects.contextView (some (place, .release)) := by
  obtain ⟨middle, ended, shut⟩ := shutdown_change place state
  have first : state.release "context shutdown" (shutdown (some place)) = middle :=
    release_of_ok ended
  unfold release
  rw [first]
  rcases dispose_change place middle with ⟨context, _, _, present, valid, _⟩ | ⟨_, done, change⟩
  · cases shut with
    | happens made =>
      have kept : (state.objects.contexts place).map Context.shutDown = some context :=
        made.symm.trans present
      obtain ⟨_, _, rfl⟩ := Option.map_eq_some_iff.mp kept
      cases valid
  · rw [release_of_ok done]
    exact shut.trans_release change rfl

/-- An initialisation in a new context fails, and nothing is left there, or it is one. -/
theorem new_change (slot : Slot) (arguments : List String) (domain : Option DomainId)
    (state : State) :
    (∃ e after, new slot arguments domain state = .error e after ∧
      ContextChange state.objects.contextView after.objects.contextView
        (some (.handle slot, .release))) ∨
    ∃ middle after, new slot arguments domain state = .ok (some (.handle slot)) after ∧
      ContextChange state.objects.contextView middle (some (.handle slot, .release)) ∧
      ContextChange middle after.objects.contextView (some (.handle slot, .init)) := by
  let created := { state with objects := state.objects.setContext (.handle slot) none }
  have made : create slot state = .ok (some (.handle slot)) created := bind_of_ok rfl
  have cleared : ContextChange state.objects.contextView created.objects.contextView
      (some (.handle slot, .release)) :=
    .happens (replace_self _ _ _) (fun other apart => replace_of_ne _ _ apart) rfl
  rcases init_change (some (.handle slot)) arguments domain created with
    ⟨e, middle, failed, same⟩ | ⟨place, after, here, ended, change⟩
  · have cleaned : orCleanUp (init (some (.handle slot)) arguments domain)
        (modify (release (some (.handle slot)))) created =
          .error e (release (some (.handle slot)) middle) :=
      orCleanUp_of_error failed
    refine Or.inl ⟨e, _, (bind_of_ok made).trans (bind_of_error cleaned), ?_⟩
    exact cleared.trans_release ((release_change (.handle slot) middle).of_eq same) rfl
  · cases here
    exact Or.inr ⟨_, after, (bind_of_ok made).trans (bind_of_ok (orCleanUp_of_ok ended)), cleared,
      change⟩

end ContextHandle

end RosClient
