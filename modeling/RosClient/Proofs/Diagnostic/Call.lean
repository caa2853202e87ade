import RosClient.Proofs.Verdict.Clock
import RosClient.Proofs.Verdict.Context
import RosClient.Proofs.Verdict.Timer
import RosClient.Proofs.Diagnostic.State

namespace RosClient

/-- A verdict that depends on nothing of diagnostics and, if the call goes through, reports none. -/
structure Verdict.IsPlain {α : Type} (verdict : Verdict α) : Prop where
  blind : ∀ state pending log, verdict { state with pending, log } = verdict state
  quiet : ∀ state commit, verdict state = .ok commit →
    ∀ record ∈ commit.log, record.isDiagnostic = false

theorem Verdict.IsPlain.alike {α : Type} {verdict : Verdict α} (plain : verdict.IsPlain)
    {first second : State} (alike : first.Alike second) : verdict first = verdict second := by
  have same : first = { second with pending := first.pending, log := first.log } := by
    cases first
    cases second
    obtain ⟨rfl, rfl, rfl, rfl⟩ := alike
    rfl
  rw [same]
  exact plain.blind second first.pending first.log

theorem quiet_of_nil {α : Type} {verdict : Verdict α}
    (bare : ∀ state commit, verdict state = .ok commit → commit.log = []) :
    ∀ state commit, verdict state = .ok commit →
      ∀ record ∈ commit.log, record.isDiagnostic = false := by
  intro state commit accepted record member
  rw [bare state commit accepted] at member
  cases member

theorem Verdict.Looks.quiet {α : Type} {verdict : Verdict α} (looks : verdict.Looks) :
    ∀ state commit, verdict state = .ok commit →
      ∀ record ∈ commit.log, record.isDiagnostic = false := by
  apply quiet_of_nil
  intro state commit accepted
  obtain ⟨value, rfl⟩ := looks state commit accepted
  rfl

namespace Verdict

theorem initOptions_isPlain (options : Option Place) : (initOptions options).IsPlain := by
  refine ⟨fun _ _ _ => rfl, quiet_of_nil ?_⟩
  intro state commit accepted
  obtain ⟨_, _, _, rfl⟩ := initOptions_eq_ok.mp accepted
  rfl

theorem setDomain_isPlain (options : Option Place) (domain : DomainId) :
    (setDomain options domain).IsPlain := by
  refine ⟨fun _ _ _ => rfl, quiet_of_nil ?_⟩
  intro state commit accepted
  obtain ⟨_, _, _, rfl⟩ := setDomain_eq_ok.mp accepted
  rfl

theorem finiOptions_isPlain (options : Option Place) : (finiOptions options).IsPlain := by
  refine ⟨fun _ _ _ => rfl, quiet_of_nil ?_⟩
  intro state commit accepted
  obtain ⟨_, _, _, rfl⟩ := finiOptions_eq_ok.mp accepted
  rfl

theorem initContext_isPlain (count : Int) (vector : Option (List (Option (List UInt8))))
    (options context : Option Place) : (initContext count vector options context).IsPlain := by
  refine ⟨fun _ _ _ => rfl, ?_⟩
  intro state commit accepted record member
  obtain ⟨_, _, _, _, _, _, _, _, _, _, _, _, rfl⟩ := initContext_eq_ok.mp accepted
  simp only [State.commit, List.mem_cons, List.not_mem_nil, or_false] at member
  rcases member with rfl | rfl <;> rfl

theorem shutdownContext_isPlain (context : Option Place) : (shutdownContext context).IsPlain := by
  refine ⟨fun _ _ _ => rfl, ?_⟩
  intro state commit accepted record member
  obtain ⟨_, _, _, _, _, rfl⟩ := shutdownContext_eq_ok.mp accepted
  cases List.mem_singleton.mp member
  rfl

theorem finiContext_isPlain (context : Option Place) : (finiContext context).IsPlain := by
  refine ⟨fun _ _ _ => rfl, ?_⟩
  intro state commit accepted record member
  obtain ⟨_, found, _, _, rfl⟩ := finiContext_eq_ok.mp accepted
  change record ∈ releaseRecords found.arguments at member
  unfold releaseRecords at member
  split at member
  · cases member
  · cases List.mem_singleton.mp member
    rfl

theorem contextDomain_isPlain (context : Option Place) (output : Bool) :
    (contextDomain context output).IsPlain :=
  ⟨fun _ _ _ => rfl, (contextDomain_looks context output).quiet⟩

theorem unparsedCount_isPlain (context : Option Place) (output : Bool) :
    (unparsedCount context output).IsPlain :=
  ⟨fun _ _ _ => rfl, (unparsedCount_looks context output).quiet⟩

theorem unparsedArgument_isPlain (context : Option Place) (index : Nat) :
    (unparsedArgument context index).IsPlain :=
  ⟨fun _ _ _ => rfl, (unparsedArgument_looks context index).quiet⟩

theorem initClock_isPlain (type : ClockType) (clock : Option Place) :
    (initClock type clock).IsPlain := by
  refine ⟨fun _ _ _ => rfl, quiet_of_nil ?_⟩
  intro state commit accepted
  obtain ⟨_, _, _, rfl⟩ := initClock_eq_ok.mp accepted
  rfl

theorem clockNow_isPlain (clock : Option Place) (output : Bool) :
    (clockNow clock output).IsPlain :=
  ⟨fun _ _ _ => rfl, (clockNow_looks output).quiet⟩

theorem isOverrideEnabled_isPlain (clock : Option Place) (output : Bool) :
    (isOverrideEnabled clock output).IsPlain :=
  ⟨fun _ _ _ => rfl, (isOverrideEnabled_looks output).quiet⟩

theorem changeOverride_isPlain (action : OverrideAction) (change : Override → Override)
    (clock : Option Place) : (changeOverride action change clock).IsPlain := by
  refine ⟨fun _ _ _ => rfl, quiet_of_nil ?_⟩
  intro state commit accepted
  obtain ⟨_, _, _, _, rfl⟩ := changeOverride_eq_ok.mp accepted
  rfl

theorem finiClock_isPlain (clock : Option Place) : (finiClock clock).IsPlain := by
  refine ⟨fun _ _ _ => rfl, quiet_of_nil ?_⟩
  intro state commit accepted
  obtain ⟨_, _, _, rfl⟩ := finiClock_eq_ok.mp accepted
  rfl

theorem initTimer_isPlain (timer clock context : Option Place) (period : Nanos)
    (callback : Option Callback) : (initTimer timer clock context period callback).IsPlain := by
  refine ⟨fun _ _ _ => rfl, quiet_of_nil ?_⟩
  intro state commit accepted
  obtain ⟨_, _, _, _, _, _, _, _, _, _, rfl⟩ := initTimer_eq_ok.mp accepted
  rfl

theorem timerIsReady_isPlain (timer : Option Place) (output : Bool) :
    (timerIsReady timer output).IsPlain :=
  ⟨fun _ _ _ => rfl, (timerIsReady_looks output).quiet⟩

theorem timerIsCanceled_isPlain (timer : Option Place) (output : Bool) :
    (timerIsCanceled timer output).IsPlain :=
  ⟨fun _ _ _ => rfl, (timerIsCanceled_looks output).quiet⟩

theorem timeUntilNextCall_isPlain (timer : Option Place) (output : Bool) :
    (timeUntilNextCall timer output).IsPlain :=
  ⟨fun _ _ _ => rfl, (timeUntilNextCall_looks output).quiet⟩

theorem timeSinceLastCall_isPlain (timer : Option Place) (output : Bool) :
    (timeSinceLastCall timer output).IsPlain :=
  ⟨fun _ _ _ => rfl, (timeSinceLastCall_looks output).quiet⟩

theorem timerPeriod_isPlain (timer : Option Place) (output : Bool) :
    (timerPeriod timer output).IsPlain :=
  ⟨fun _ _ _ => rfl, (timerPeriod_looks output).quiet⟩

theorem resetTimer_isPlain (timer : Option Place) : (resetTimer timer).IsPlain := by
  refine ⟨fun _ _ _ => rfl, quiet_of_nil ?_⟩
  intro state commit accepted
  obtain ⟨_, _, _, _, _, rfl⟩ := resetTimer_eq_ok.mp accepted
  rfl

theorem cancelTimer_isPlain (timer : Option Place) : (cancelTimer timer).IsPlain := by
  refine ⟨fun _ _ _ => rfl, quiet_of_nil ?_⟩
  intro state commit accepted
  obtain ⟨_, _, _, rfl⟩ := cancelTimer_eq_ok.mp accepted
  rfl

theorem exchangePeriod_isPlain (timer : Option Place) (period : Nanos) (output : Bool) :
    (exchangePeriod timer period output).IsPlain := by
  refine ⟨fun _ _ _ => rfl, quiet_of_nil ?_⟩
  intro state commit accepted
  obtain ⟨_, _, _, _, _, rfl⟩ := exchangePeriod_eq_ok.mp accepted
  rfl

theorem callTimer_isPlain (timer : Option Place) : (callTimer timer).IsPlain := by
  refine ⟨fun _ _ _ => rfl, quiet_of_nil ?_⟩
  intro state commit accepted
  obtain ⟨_, _, _, _, _, _, _, _, _, rfl⟩ := callTimer_eq_ok.mp accepted
  rfl

theorem finiTimer_isPlain (timer : Option Place) : (finiTimer timer).IsPlain := by
  cases timer with
  | none =>
    refine ⟨fun _ _ _ => rfl, quiet_of_nil ?_⟩
    intro state commit accepted
    cases accepted
    rfl
  | some place =>
    refine ⟨fun _ _ _ => rfl, quiet_of_nil ?_⟩
    intro state commit accepted
    cases accepted
    rfl

end Verdict

end RosClient
