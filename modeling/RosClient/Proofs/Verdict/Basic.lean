import RosClient.State

namespace RosClient

theorem Objects.setContext_self (objects : Objects) (place : Place) :
    objects.setContext place (objects.contexts place) = objects :=
  congrArg (fun contexts => { objects with contexts }) (replace_of_eq rfl)

theorem Objects.setTimer_self (objects : Objects) (place : Place) :
    objects.setTimer place (objects.timers place) = objects :=
  congrArg (fun timers => { objects with timers }) (replace_of_eq rfl)

theorem Objects.setTimer_setTimer (objects : Objects) (place : Place)
    (first second : Option Timer) :
    (objects.setTimer place first).setTimer place second = objects.setTimer place second := by
  simp only [setTimer, replace_replace]

theorem Context.shutDown_of_none {context : Context} (shut : context.instance? = none) :
    context.shutDown = context := by
  obtain ⟨id, domain, arguments⟩ := context
  cases shut
  rfl

/-- The status in which a fault ends a call. -/
def Fault.status : Fault → Status
  | nullArgument _ => .invalidArgument
  | optionsInitialized => .alreadyInit
  | optionsUninitialized => .invalidArgument
  | negativeCount => .invalidArgument
  | missingVector => .invalidArgument
  | nullItem _ => .invalidArgument
  | contextInitialized => .alreadyInit
  | badArguments _ => .invalidRosArgs
  | badDomain _ => .error
  | contextUninitialized => .invalidArgument
  | contextShutDown => .alreadyShutdown
  | contextValid => .invalidArgument
  | contextInvalid => .invalidArgument
  | contextUnusable => .notInit
  | argumentIndex _ _ => .error
  | clockInitialized => .alreadyInit
  | clockUninitialized => .invalidArgument
  | clockUnreadable => .error
  | readingFailed _ => .error
  | notRosTime _ => .error
  | overrideMissing => .error
  | timerInitialized => .alreadyInit
  | timerUninitialized => .timerInvalid
  | negativePeriod _ => .invalidArgument
  | timerCanceled => .timerCanceled
  | negativeNow => .error
  | timerNotReady _ => .error

theorem Fault.status_ne_ok (fault : Fault) : fault.status ≠ .ok := by
  cases fault <;> simp [status]

/-- What a call leaves behind if nothing stops it. -/
structure Commit (α : Type) where
  value : α
  objects : Objects
  log : List LogRecord := []

/-- What a call comes to, told from the state before it: what it leaves behind, or the fault that
stops it. -/
abbrev Verdict (α : Type) := State → Except Fault (Commit α)

namespace State

/-- A commit of a value that leaves the objects as they are. -/
def answer {α : Type} (state : State) (value : α) : Commit α :=
  { value, objects := state.objects }

/-- A commit of new objects. -/
def commit (_ : State) (objects : Objects) (log : List LogRecord := []) : Commit Unit :=
  { value := (), objects, log }

/-- How a call ends in a state: a commit is written as a whole, and a fault leaves its diagnostic
and nothing else. -/
def settle {α : Type} (state : State) (status : Fault → Status) :
    Except Fault (Commit α) → EStateM.Result Status State α
  | .ok commit => .ok commit.value { state.write commit.log with objects := commit.objects }
  | .error fault => .error (status fault) (state.raise fault)

/-- How a part of a call ends that only looks: it hands on what it found, or stops the call. -/
def sift {α : Type} (state : State) (status : Fault → Status) :
    Except Fault α → EStateM.Result Status State α
  | .ok found => .ok found state
  | .error fault => .error (status fault) (state.raise fault)

end State

/-- A call that comes to its verdict: whatever stops it does so before it has written anything, and
leaves exactly one diagnostic; and a call that nothing stops leaves none. -/
class Settles {α : Type} (call : Call α) (status : outParam (Fault → Status))
    (verdict : outParam (Verdict α)) : Prop where
  settles : ∀ state, call state = state.settle status (verdict state)

namespace State

theorem settle_value {α : Type} (state : State) (status : Fault → Status) (value : α)
    (objects : Objects) :
    state.settle status (.ok { value, objects }) = .ok value { state with objects } := by
  simp only [settle, write, List.append_nil]

theorem settle_answer {α : Type} (state : State) (status : Fault → Status) (value : α) :
    state.settle status (.ok (state.answer value)) = .ok value state :=
  state.settle_value status value state.objects

theorem settle_commit (state : State) (status : Fault → Status) (objects : Objects) :
    state.settle status (.ok (state.commit objects)) = .ok () { state with objects } :=
  state.settle_value status () objects

theorem settle_report (state : State) (status : Fault → Status) (objects : Objects)
    (record : LogRecord) :
    state.settle status (.ok (state.commit objects [record])) =
      .ok () { state.write [record] with objects } :=
  rfl

theorem settle_reports (state : State) (status : Fault → Status) (objects : Objects)
    (first second : LogRecord) :
    state.settle status (.ok (state.commit objects [first, second])) =
      .ok () { (state.write [first]).write [second] with objects } := by
  simp only [settle, commit, write, List.append_assoc, List.cons_append, List.nil_append]

section

variable {α : Type} {call : Call α} {status : Fault → Status} {verdict : Verdict α} {state : State}

theorem call_of_ok [Settles call status verdict] {commit : Commit α}
    (accepted : verdict state = .ok commit) :
    call state =
      .ok commit.value { state.write commit.log with objects := commit.objects } := by
  have settled : call state = state.settle status (verdict state) := Settles.settles state
  rw [settled, accepted, settle]

theorem call_of_error [Settles call status verdict] {fault : Fault}
    (refused : verdict state = .error fault) :
    call state = .error (status fault) (state.raise fault) := by
  have settled : call state = state.settle status (verdict state) := Settles.settles state
  rw [settled, refused, settle]

theorem accepted_of_ok [Settles call status verdict] {value : α} {after : State}
    (through : call state = .ok value after) :
    ∃ commit, verdict state = .ok commit ∧ commit.value = value ∧
      { state.write commit.log with objects := commit.objects } = after := by
  cases outcome : verdict state with
  | error fault =>
    have failed := through.symm.trans (call_of_error outcome)
    cases failed
  | ok commit =>
    have ended := (call_of_ok outcome).symm.trans through
    obtain ⟨same, left⟩ := EStateM.Result.ok.inj ended
    exact ⟨commit, rfl, same, left⟩

theorem perform_of_ok [Settles call status verdict] {commit : Commit α}
    (accepted : verdict state = .ok commit) :
    state.perform call =
      (.ok commit.value,
        { state.write commit.log with objects := commit.objects, calls := state.calls + 1 }) := by
  simp only [perform, call_of_ok accepted]
  rfl

theorem perform_of_error [Settles call status verdict] {fault : Fault}
    (refused : verdict state = .error fault) :
    state.perform call =
      (.error (status fault), { state.raise fault with calls := state.calls + 1 }) := by
  simp only [perform, call_of_error refused]
  rfl

end

end State

instance {α : Type} {first second : Call α} {status : Fault → Status}
    {verdict other : Verdict α} [Settles first status verdict] [Settles second status other]
    (choice : Bool) : Settles (if choice then first else second) status
      (if choice then verdict else other) := by
  cases choice with
  | false => exact inferInstanceAs (Settles second status other)
  | true => exact inferInstanceAs (Settles first status verdict)

/-- What a call does with the state it looks at. -/
theorem get_bind {α : Type} (next : State → Call α) (state : State) :
    (get >>= next) state = next state state :=
  rfl

theorem required_bind {α : Type} (name : String) (place : Place) (missing : Status)
    (next : Place → Call α) (state : State) :
    (Call.required name (some place) missing >>= next) state = next place state :=
  rfl

theorem Call.store_bind {α : Type} (change : Objects → Objects) (next : Call α) (state : State) :
    (Call.store change >>= fun _ => next) state =
      next { state with objects := change state.objects } :=
  rfl

/-- A part of a call that only looks. -/
def Checks {α : Type} (check : Call α) (status : Fault → Status)
    (test : State → Except Fault α) : Prop :=
  ∀ state, check state = state.sift status (test state)

section

variable {α β : Type} {status : Fault → Status} {check : Call β} {test : State → Except Fault β}

/-- A call that starts with a check comes to what the rest of it comes to. -/
theorem Checks.bind (checks : Checks check status test) {next : β → Call α}
    {verdict : β → Except Fault (Commit α)} {state : State}
    (rest : ∀ found, test state = .ok found →
      next found state = state.settle status (verdict found)) :
    (check >>= next) state = state.settle status (test state >>= verdict) := by
  have checked := checks state
  change EStateM.bind check next state = _
  cases outcome : test state with
  | error fault =>
    rw [outcome] at checked
    simp only [EStateM.bind, checked]
    rfl
  | ok found =>
    rw [outcome] at checked
    simp only [EStateM.bind, checked]
    exact rest found outcome

/-- A call that is nothing but a check answers what it has found. -/
theorem Checks.settle {check : Call α} {test : State → Except Fault α}
    (checks : Checks check status test) (state : State) :
    check state = state.settle status (test state >>= fun found => .ok (state.answer found)) := by
  rw [checks state]
  cases test state with
  | error fault => rfl
  | ok found => exact (state.settle_answer status found).symm

theorem Checks.answer (checks : Checks check status test) {value : β → α} {state : State} :
    (check >>= fun found => pure (value found)) state =
      state.settle status (test state >>= fun found => .ok (state.answer (value found))) :=
  checks.bind fun found _ => (state.settle_answer status (value found)).symm

end

namespace Verdict

/-- The place behind a pointer that a call needs. -/
def required (name : String) (pointer : Option Place) : Except Fault Place :=
  match pointer with
  | some place => .ok place
  | none => .error (.nullArgument name)

/-- Stops a query without a place for its output. -/
def requireOutput (name : String) (output : Bool) : Except Fault Unit :=
  if output then .ok () else .error (.nullArgument name)

end Verdict

theorem required_checks (name : String) (pointer : Option Place) (status : Fault → Status) :
    Checks (Call.required name pointer (status (.nullArgument name))) status
      fun _ => Verdict.required name pointer := by
  intro state
  cases pointer <;> rfl

theorem requireOutput_checks (name : String) (output : Bool) :
    Checks (Call.requireOutput name output) Fault.status
      fun _ => Verdict.requireOutput name output := by
  intro state
  cases output <;> rfl

theorem bind_eq_ok {ε α β : Type} {first : Except ε α} {next : α → Except ε β} {value : β} :
    first >>= next = .ok value ↔ ∃ middle, first = .ok middle ∧ next middle = .ok value := by
  cases first with
  | error e => simp only [bind, Except.bind, reduceCtorEq, false_and, exists_false]
  | ok middle => simp only [bind, Except.bind, Except.ok.injEq, exists_eq_left']

theorem refusal_eq_ok {ε α : Type} {refused : Prop} [Decidable refused] {fault : ε}
    {rest : Except ε α} {value : α} :
    (if refused then .error fault else rest) = .ok value ↔ ¬ refused ∧ rest = .ok value := by
  by_cases h : refused
  · simp only [h, ↓reduceIte, reduceCtorEq, not_true_eq_false, false_and]
  · simp only [h, ↓reduceIte, not_false_eq_true, true_and]

theorem required_eq_ok {name : String} {pointer : Option Place} {place : Place} :
    Verdict.required name pointer = .ok place ↔ pointer = some place := by
  cases pointer with
  | none => simp only [Verdict.required, reduceCtorEq]
  | some found => simp only [Verdict.required, Except.ok.injEq, Option.some.injEq]

theorem requireOutput_eq_ok {name : String} {output : Bool} {done : Unit} :
    Verdict.requireOutput name output = .ok done ↔ output = true := by
  cases output with
  | false => simp only [Verdict.requireOutput, Bool.false_eq_true, ↓reduceIte, reduceCtorEq]
  | true => simp only [Verdict.requireOutput, ↓reduceIte]

/-- A call that only looks: if it goes through, it answers a value and changes nothing. -/
def Verdict.Looks {α : Type} (verdict : Verdict α) : Prop :=
  ∀ state commit, verdict state = .ok commit → ∃ value, state.answer value = commit

theorem Verdict.Looks.objects_eq {α : Type} {verdict : Verdict α} (looks : verdict.Looks)
    {state : State} {commit : Commit α} (accepted : verdict state = .ok commit) :
    commit.objects = state.objects := by
  obtain ⟨value, rfl⟩ := looks state commit accepted
  rfl

end RosClient
