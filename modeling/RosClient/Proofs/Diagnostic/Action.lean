import RosClient.Proofs.Diagnostic.Call
import RosClient.Proofs.Operation.Effect

namespace RosClient

/-- Two ends of an action that differ in nothing but diagnostics and the log. -/
inductive EndsAlike {α : Type} :
    EStateM.Result Error State α → EStateM.Result Error State α → Prop where
  | ok {value : α} {first second : State} (alike : first.Alike second) :
    EndsAlike (.ok value first) (.ok value second)
  | error {e : Error} {first second : State} (alike : first.Alike second) :
    EndsAlike (.error e first) (.error e second)

/-- An action that reports the failures of its own calls, for one of the tasks, and touches no other
diagnostic. -/
structure Hygienic {α : Type} (tasks : List Task) (action : Action α) : Prop where
  ends : ∀ state : State, state.Ends tasks (errorOf? (action state)) (stateOf (action state))
  blind : ∀ first second : State, first.Alike second → EndsAlike (action first) (action second)

section

variable {α β : Type} {tasks : List Task}

theorem Hygienic.mono {more : List Task} {action : Action α} (hygienic : Hygienic tasks action)
    (within : ∀ task ∈ tasks, task ∈ more) : Hygienic more action :=
  ⟨fun state => (hygienic.ends state).mono within, hygienic.blind⟩

theorem hygienic_pure (value : α) : Hygienic tasks (pure value : Action α) :=
  ⟨fun state => State.Untroubled.refl state, fun _ _ alike => .ok alike⟩

theorem hygienic_throw {e : Error} (own : e.status? = none) :
    Hygienic tasks (throw e : Action α) := by
  refine ⟨?_, fun _ _ alike => .error alike⟩
  intro state
  cases e with
  | failed => cases own
  | invalidArgument | unrecognizedClockType => exact State.Untroubled.refl state

theorem hygienic_reject (rejection : Rejection) : Hygienic tasks (reject rejection : Action α) :=
  hygienic_throw rfl

theorem hygienic_modify {change : State → State}
    (calm : ∀ state : State, state.Untroubled (change state))
    (blind : ∀ first second : State, first.Alike second → (change first).Alike (change second)) :
    Hygienic tasks (modify change : Action Unit) :=
  ⟨calm, fun first second alike => .ok (blind first second alike)⟩

theorem Hygienic.bind {action : Action α} {next : α → Action β}
    (hygienic : Hygienic tasks action) (rest : ∀ value, Hygienic tasks (next value)) :
    Hygienic tasks (action >>= next) := by
  constructor
  · intro state
    have first := hygienic.ends state
    cases ended : action state with
    | ok value middle =>
      rw [ended] at first
      rw [bind_of_ok ended]
      exact first.ends ((rest value).ends middle)
    | error e middle =>
      rw [ended] at first
      rw [bind_of_error ended]
      exact first
  · intro first second alike
    have both := hygienic.blind first second alike
    change EndsAlike (EStateM.bind action next first) (EStateM.bind action next second)
    unfold EStateM.bind
    generalize action first = end₁, action second = end₂ at both
    cases both with
    | ok alikeMiddle => exact (rest _).blind _ _ alikeMiddle
    | error alikeMiddle => exact .error alikeMiddle

theorem hygienic_choice (test : State → Bool) {first second : Action α}
    (blind : ∀ state other : State, state.Alike other → test state = test other)
    (hygienic : Hygienic tasks first) (hygienicElse : Hygienic tasks second) :
    Hygienic tasks (get >>= fun state => if test state then first else second) := by
  constructor
  · intro state
    rw [choice_apply]
    split
    · exact hygienic.ends state
    · exact hygienicElse.ends state
  · intro state other alike
    rw [choice_apply, choice_apply, blind state other alike]
    split
    · exact hygienic.blind state other alike
    · exact hygienicElse.blind state other alike

theorem hygienic_forM {entries : List β} {each : β → Action Unit}
    (hygienic : ∀ entry, Hygienic tasks (each entry)) : Hygienic tasks (entries.forM each) := by
  induction entries with
  | nil => exact hygienic_pure ()
  | cons entry rest ih => exact (hygienic entry).bind fun _ => ih

theorem hygienic_mapM {entries : List β} {each : β → Action α}
    (hygienic : ∀ entry, Hygienic tasks (each entry)) : Hygienic tasks (entries.mapM each) := by
  induction entries with
  | nil => exact hygienic_pure []
  | cons entry rest ih =>
    rw [List.mapM_cons]
    exact (hygienic entry).bind fun _ => ih.bind fun _ => hygienic_pure _

theorem State.Alike.committed {first second : State} (alike : first.Alike second)
    (commit : Commit α) : (first.committed commit).Alike (second.committed commit) :=
  ⟨rfl, alike.environment, alike.readings, congrArg (· + 1) alike.calls⟩

theorem hygienic_attempt {task : Task} {call : Call α} {status : Fault → Status}
    {verdict : Verdict α} [Settles call status verdict] (member : task ∈ tasks)
    (made : task.Makes task.kind task.description call) (plain : verdict.IsPlain) :
    Hygienic tasks (attempt task call) := by
  constructor
  · intro state
    cases outcome : verdict state with
    | ok commit =>
      rw [attempt_of_ok outcome]
      exact ⟨rfl, commit.log, rfl, plain.quiet state commit outcome⟩
    | error fault =>
      rw [attempt_of_error outcome]
      refine ⟨rfl, task, member, α, call, task.description, fault, state, made, .refl state,
        State.call_of_error outcome, rfl, fault.diagnostic_ne_unknown, [], ?_,
        fun _ => List.not_mem_nil⟩
      simp only [State.raise_eq, List.append_assoc, List.cons_append]
      rfl
  · intro first second alike
    have same := plain.alike alike
    cases outcome : verdict second with
    | ok commit =>
      rw [attempt_of_ok outcome, attempt_of_ok (same.trans outcome)]
      exact .ok (alike.committed commit)
    | error fault =>
      rw [attempt_of_error outcome, attempt_of_error (same.trans outcome)]
      exact .error (alike.afterFailure fault _)

theorem EndsAlike.state {first second : EStateM.Result Error State α}
    (both : EndsAlike first second) : (stateOf first).Alike (stateOf second) := by
  cases both with
  | ok alike => exact alike
  | error alike => exact alike

/-- A clean-up that leaves nothing pending and overwrites nothing if nothing was pending. -/
structure IsTidy (cleanUp : Action Unit) : Prop where
  cleared : ∀ state, state.pending = none → (stateOf (cleanUp state)).pending = none
  log : ∀ state, state.pending = none → ∃ records,
    (stateOf (cleanUp state)).log = state.log ++ records ∧ ∀ text, .overwritten text ∉ records
  blind : ∀ first second : State, first.Alike second → EndsAlike (cleanUp first) (cleanUp second)

theorem isTidy_discard (cleanUp : String) {call : Call Unit} {status : Fault → Status}
    {verdict : Verdict Unit} [Settles call status verdict] (plain : verdict.IsPlain) :
    IsTidy (discard cleanUp call) := by
  refine ⟨?_, ?_, ?_⟩
  · intro state nothing
    cases outcome : verdict state with
    | ok commit =>
      rw [discard_of_ok outcome]
      exact nothing
    | error fault =>
      rw [discard_of_error outcome]
      rfl
  · intro state nothing
    cases outcome : verdict state with
    | ok commit =>
      rw [discard_of_ok outcome]
      exact ⟨commit.log, rfl, State.not_overwritten_of_plain (plain.quiet state commit outcome)⟩
    | error fault =>
      rw [discard_of_error outcome]
      refine ⟨_, rfl, ?_⟩
      intro text found
      have pending := State.overwritten_mem_afterFailure rfl found
      rw [nothing] at pending
      cases pending
  · intro first second alike
    have same := plain.alike alike
    cases outcome : verdict second with
    | ok commit =>
      rw [discard_of_ok outcome, discard_of_ok (same.trans outcome)]
      exact .ok (alike.committed commit)
    | error fault =>
      rw [discard_of_error outcome, discard_of_error (same.trans outcome)]
      exact .ok (alike.afterFailure fault _)

theorem ends_nil {before after : State} {error? : Option Error}
    (ended : State.Ends [] before error? after) : before.Untroubled after := by
  unfold State.Ends at ended
  split at ended
  · obtain ⟨task, member, _⟩ := ended.cause
    cases member
  · exact ended

theorem Hygienic.isTidy {cleanUp : Action Unit} (hygienic : Hygienic [] cleanUp) :
    IsTidy cleanUp := by
  refine ⟨?_, ?_, hygienic.blind⟩
  · intro state nothing
    exact (ends_nil (hygienic.ends state)).pending.trans nothing
  · intro state nothing
    obtain ⟨records, reported, plain⟩ := (ends_nil (hygienic.ends state)).log
    exact ⟨records, reported, State.not_overwritten_of_plain plain⟩

theorem blind_orCleanUp {action : Action α} {cleanUp : Action Unit}
    (blind : ∀ first second : State, first.Alike second → EndsAlike (action first) (action second))
    (tidy : IsTidy cleanUp) (first second : State) (alike : first.Alike second) :
    EndsAlike (orCleanUp action cleanUp first) (orCleanUp action cleanUp second) := by
  have both := blind first second alike
  cases ended : action first with
  | ok value after =>
    cases endedToo : action second with
    | ok other last =>
      rw [ended, endedToo] at both
      rw [orCleanUp_of_ok ended, orCleanUp_of_ok endedToo]
      exact both
    | error e last =>
      rw [ended, endedToo] at both
      cases both
  | error e middle =>
    cases endedToo : action second with
    | ok other last =>
      rw [ended, endedToo] at both
      cases both
    | error other last =>
      rw [ended, endedToo] at both
      rw [orCleanUp_of_error ended, orCleanUp_of_error endedToo]
      cases both with
      | error alikeMiddle => exact .error (tidy.blind middle last alikeMiddle).state

/-- A clean-up behind an action. Where the error is none of a call, the clean-up may not touch a
diagnostic. -/
theorem hygienic_orCleanUp {action : Action α} {cleanUp : Action Unit}
    (hygienic : Hygienic tasks action) (tidy : IsTidy cleanUp)
    (calm : ∀ state e middle, action state = .error e middle → e.status? = none →
      middle.Untroubled (stateOf (cleanUp middle))) :
    Hygienic tasks (orCleanUp action cleanUp) := by
  refine ⟨?_, blind_orCleanUp hygienic.blind tidy⟩
  intro state
  have first := hygienic.ends state
  cases ended : action state with
  | ok value after =>
    rw [ended] at first
    rw [orCleanUp_of_ok ended]
    exact first
  | error e middle =>
    rw [ended] at first
    rw [orCleanUp_of_error ended]
    cases e with
    | failed kind status message =>
      exact State.Surfaced.then first (tidy.cleared middle first.cleared)
        (tidy.log middle first.cleared)
    | invalidArgument | unrecognizedClockType =>
      have cleaned := calm state _ middle ended rfl
      exact State.Untroubled.trans first cleaned

theorem attempt_fails_by_call {task : Task} {call : Call α} {status : Fault → Status}
    {verdict : Verdict α} [Settles call status verdict] {state after : State} {e : Error}
    (ended : attempt task call state = .error e after) : e.status?.isSome := by
  cases outcome : verdict state with
  | ok commit =>
    rw [attempt_of_ok outcome] at ended
    cases ended
  | error fault =>
    rw [attempt_of_error outcome] at ended
    cases ended
    rfl

theorem hygienic_attempt_orCleanUp {task : Task} {call : Call α} {cleanUp : Action Unit}
    {status : Fault → Status} {verdict : Verdict α} [Settles call status verdict]
    (member : task ∈ tasks) (made : task.Makes task.kind task.description call)
    (plain : verdict.IsPlain) (tidy : IsTidy cleanUp) :
    Hygienic tasks (orCleanUp (attempt task call) cleanUp) := by
  refine hygienic_orCleanUp (hygienic_attempt member made plain) tidy ?_
  intro state e middle ended own
  have byCall := attempt_fails_by_call ended
  rw [own] at byCall
  cases byCall

end

end RosClient
