import RosClient.Proofs.Diagnostic.Handle
import RosClient.Proofs.Session.Live

namespace RosClient

def Outcome.error? : Outcome → Option Error
  | error e => some e
  | _ => none

/-- The error in the answer of a step. -/
def StepAnswer.error? : StepAnswer → Option Error
  | outcome ended => ended.error?
  | kept ended _ => ended.error?
  | fired ended _ => ended.error?
  | _ => none

namespace Session

/-- Two sessions that differ in nothing but the pending diagnostic and the log. -/
structure Alike (first second : Session) : Prop where
  state : first.state.Alike second.state
  contexts : first.contexts = second.contexts
  clocks : first.clocks = second.clocks
  timers : first.timers = second.timers
  sources : first.sources = second.sources

namespace Alike

variable {first second : Session}

theorem withState (alike : first.Alike second) {state other : State} (after : state.Alike other) :
    { first with state }.Alike { second with state := other } :=
  ⟨after, alike.contexts, alike.clocks, alike.timers, alike.sources⟩

theorem putContext (alike : first.Alike second) (slot : Slot) (held : HeldContext) :
    (first.putContext slot held).Alike (second.putContext slot held) :=
  ⟨alike.state, congrArg (·.put slot held) alike.contexts, alike.clocks, alike.timers,
    alike.sources⟩

theorem putClock (alike : first.Alike second) (slot : Slot) (held : HeldClock) :
    (first.putClock slot held).Alike (second.putClock slot held) :=
  ⟨alike.state, alike.contexts, congrArg (·.put slot held) alike.clocks, alike.timers,
    alike.sources⟩

theorem putTimer (alike : first.Alike second) (slot : Slot) (held : HeldTimer) :
    (first.putTimer slot held).Alike (second.putTimer slot held) :=
  ⟨alike.state, alike.contexts, alike.clocks, congrArg (·.put slot held) alike.timers,
    alike.sources⟩

theorem putSource (alike : first.Alike second) (slot : Slot) (source : TimeSource) :
    (first.putSource slot source).Alike (second.putSource slot source) :=
  ⟨alike.state, alike.contexts, alike.clocks, alike.timers,
    congrArg (·.put slot source) alike.sources⟩

theorem hasCallback_eq (alike : first.Alike second) (handle : Handle) :
    first.hasCallback handle = second.hasCallback handle := by
  unfold hasCallback
  rw [alike.state.objects]

end Alike

/-- A look at a slot, which may put the slot in use but does nothing else. -/
structure IsLook {α : Type} (look : Session → α × Session) : Prop where
  state : ∀ session, (look session).2.state = session.state
  alike : ∀ first second : Session, first.Alike second →
    (look first).1 = (look second).1 ∧ (look first).2.Alike (look second).2

theorem isLook_context (slot : Slot) : IsLook (·.context slot) := by
  constructor
  · intro session
    unfold context
    split
    · rfl
    · rfl
  · intro first second alike
    unfold context
    rw [alike.contexts]
    split
    · exact ⟨rfl, alike⟩
    · exact ⟨rfl, alike.putContext slot _⟩

theorem isLook_clock (slot : Slot) : IsLook (·.clock slot) := by
  constructor
  · intro session
    unfold clock
    split
    · rfl
    · rfl
  · intro first second alike
    unfold clock
    rw [alike.clocks]
    split
    · exact ⟨rfl, alike⟩
    · exact ⟨rfl, alike.putClock slot _⟩

theorem isLook_timer (slot : Slot) : IsLook (·.timer slot) := by
  constructor
  · intro session
    unfold timer
    split
    · rfl
    · rfl
  · intro first second alike
    unfold timer
    rw [alike.timers]
    split
    · exact ⟨rfl, alike⟩
    · exact ⟨rfl, alike.putTimer slot _⟩

end Session

/-- A move that, from a session, keeps to its own diagnostics. -/
structure IsClean (tasks : List Task) (session : Session)
    (move : Session → StepAnswer × Session) : Prop where
  ends : session.state.Ends tasks (move session).1.error? (move session).2.state
  blind : ∀ other, session.Alike other →
    (move session).1 = (move other).1 ∧ (move session).2.Alike (move other).2

section

variable {tasks : List Task} {session : Session}

theorem isClean_calm {move : Session → StepAnswer × Session}
    (noError : (move session).1.error? = none)
    (calm : session.state.Untroubled (move session).2.state)
    (blind : ∀ other, session.Alike other →
      (move session).1 = (move other).1 ∧ (move session).2.Alike (move other).2) :
    IsClean tasks session move := by
  refine ⟨?_, blind⟩
  rw [noError]
  exact calm

theorem isClean_still {answer : Session → StepAnswer} (noError : (answer session).error? = none)
    (blind : ∀ other, session.Alike other → answer session = answer other) :
    IsClean tasks session fun session => (answer session, session) :=
  isClean_calm noError (State.Untroubled.refl _) fun other alike => ⟨blind other alike, alike⟩

theorem isClean_refuse (reason : Refusal) : IsClean tasks session (·.refuse reason) :=
  isClean_still rfl fun _ _ => rfl

theorem isClean_outcome {e : Error} (own : e.status? = none) :
    IsClean tasks session fun session => (.outcome (.error e), session) := by
  cases e with
  | failed => cases own
  | invalidArgument | unrecognizedClockType =>
    exact ⟨State.Untroubled.refl _, fun _ alike => ⟨rfl, alike⟩⟩

theorem isClean_observe {value : Session → Value}
    (blind : ∀ other, session.Alike other → value session = value other) :
    IsClean tasks session fun session => session.observe (value session) :=
  isClean_still rfl fun other alike => by rw [blind other alike]

theorem isClean_act {α : Type} {action : Action α} {move : Session → StepAnswer × Session}
    (tell : Except Error α → StepAnswer) (hygienic : Hygienic tasks action)
    (noError : ∀ value, (tell (.ok value)).error? = none)
    (theError : ∀ e, (tell (.error e)).error? = some e)
    (carries : ∀ session, move session = (tell (session.act action).1, (session.act action).2)) :
    IsClean tasks session move := by
  constructor
  · have ended := hygienic.ends session.state
    rw [carries]
    unfold Session.act
    cases result : action session.state with
    | ok value after =>
      rw [result] at ended
      simp only [noError]
      exact ended
    | error e after =>
      rw [result] at ended
      simp only [theError]
      exact ended
  · intro other alike
    have both := hygienic.blind _ _ alike.state
    rw [carries, carries]
    unfold Session.act
    generalize action session.state = end₁, action other.state = end₂ at both
    cases both with
    | ok after => exact ⟨rfl, alike.withState after⟩
    | error after => exact ⟨rfl, alike.withState after⟩

theorem isClean_respond {α : Type} {action : Action α} (hygienic : Hygienic tasks action)
    (value : α → Value) : IsClean tasks session (·.respond action value) := by
  refine isClean_act
    (fun
      | .ok result => .outcome (.value (value result))
      | .error e => .outcome (.error e))
    hygienic (fun _ => rfl) (fun _ => rfl) ?_
  intro session
  unfold Session.respond Session.answer
  cases session.act action with
  | mk ended after => cases ended <;> rfl

theorem isClean_store {α : Type} {action : Action α} {put : Session → α → Session}
    (tell : Session → Outcome → StepAnswer) (hygienic : Hygienic tasks action)
    (calm : ∀ session value, (put session value).state = session.state)
    (putAlike : ∀ first second value, Session.Alike first second →
      (put first value).Alike (put second value))
    (tellError : ∀ session outcome, (tell session outcome).error? = outcome.error?)
    (tellAlike : ∀ first second outcome, Session.Alike first second →
      tell first outcome = tell second outcome) :
    IsClean tasks session fun session =>
      let (outcome, after) := session.store action put
      (tell after outcome, after) := by
  constructor
  · have ended := hygienic.ends session.state
    simp only [Session.store, Session.act]
    cases result : action session.state with
    | ok value after =>
      rw [result] at ended
      simp only [tellError, calm]
      exact ended
    | error e after =>
      rw [result] at ended
      simp only [tellError]
      exact ended
  · intro other alike
    have both := hygienic.blind _ _ alike.state
    simp only [Session.store, Session.act]
    generalize action session.state = end₁, action other.state = end₂ at both
    cases both with
    | @ok value _ _ after =>
      have stored := putAlike _ _ value (alike.withState after)
      exact ⟨tellAlike _ _ _ stored, stored⟩
    | error after => exact ⟨tellAlike _ _ _ (alike.withState after), alike.withState after⟩

theorem isClean_respondStore {α : Type} {action : Action α} {put : Session → α → Session}
    (hygienic : Hygienic tasks action)
    (calm : ∀ session value, (put session value).state = session.state)
    (putAlike : ∀ first second value, Session.Alike first second →
      (put first value).Alike (put second value)) :
    IsClean tasks session (·.respondStore action put) :=
  isClean_store (fun _ => .outcome) hygienic calm putAlike (fun _ _ => rfl) fun _ _ _ _ => rfl

theorem IsClean.behind {α : Type} {look : Session → α × Session} (looks : Session.IsLook look)
    (move : α → Session → StepAnswer × Session)
    (clean : IsClean tasks (look session).2 (move (look session).1)) :
    IsClean tasks session fun session => move (look session).1 (look session).2 := by
  constructor
  · rw [← looks.state session]
    exact clean.ends
  · intro other alike
    obtain ⟨same, alikeBehind⟩ := looks.alike session other alike
    rw [← same]
    exact clean.blind _ alikeBehind

theorem IsClean.prepared {put : Session → Session} {move : Session → StepAnswer × Session}
    (state : (put session).state = session.state)
    (putAlike : ∀ other, session.Alike other → (put session).Alike (put other))
    (clean : IsClean tasks (put session) move) :
    IsClean tasks session fun session => move (put session) := by
  constructor
  · rw [← state]
    exact clean.ends
  · exact fun other alike => clean.blind _ (putAlike other alike)

theorem isClean_choice {test : Session → Bool} {first second : Session → StepAnswer × Session}
    (blind : ∀ other, session.Alike other → test session = test other)
    (clean : IsClean tasks session first) (cleanElse : IsClean tasks session second) :
    IsClean tasks session fun session =>
      if test session then first session else second session := by
  cases tested : test session with
  | true =>
    constructor
    · rw [if_pos tested]
      exact clean.ends
    · intro other alike
      rw [if_pos tested, if_pos ((blind other alike).symm.trans tested)]
      exact clean.blind other alike
  | false =>
    have not : ¬ test session = true := by rw [tested]; decide
    constructor
    · rw [if_neg not]
      exact cleanElse.ends
    · intro other alike
      rw [if_neg not, if_neg fun chosen => not ((blind other alike).trans chosen)]
      exact cleanElse.blind other alike

theorem isClean_found {α : Type} {move : Session → StepAnswer × Session}
    (find : Session → Option α) (otherwise : Session → StepAnswer × Session)
    (use : α → Session → StepAnswer × Session)
    (absent : ∀ session, find session = none → move session = otherwise session)
    (present : ∀ session found, find session = some found → move session = use found session)
    (blind : ∀ other, session.Alike other → find session = find other)
    (cleanElse : IsClean tasks session otherwise)
    (clean : ∀ found, find session = some found → IsClean tasks session (use found)) :
    IsClean tasks session move := by
  cases looked : find session with
  | none =>
    constructor
    · rw [absent session looked]
      exact cleanElse.ends
    · intro other alike
      rw [absent session looked, absent other ((blind other alike).symm.trans looked)]
      exact cleanElse.blind other alike
  | some found =>
    constructor
    · rw [present session found looked]
      exact (clean found looked).ends
    · intro other alike
      rw [present session found looked,
        present other found ((blind other alike).symm.trans looked)]
      exact (clean found looked).blind other alike

end

end RosClient
