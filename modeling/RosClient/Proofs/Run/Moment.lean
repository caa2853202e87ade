import RosClient.Run

namespace RosClient

/-- An operation that is carried out, and the state that it finds. -/
structure Moment where
  state : State
  operation : Operation

namespace Moment

def effect (moment : Moment) : Effect :=
  moment.operation.perform moment.state

def answer (moment : Moment) : Answer :=
  moment.effect.answer

/-- The state that the operation leaves. -/
def after (moment : Moment) : State :=
  moment.effect.state

end Moment

namespace State

/-- The moments of operations that are carried out one after the other. -/
def moments (state : State) : List Operation → List Moment
  | [] => []
  | operation :: rest => ⟨state, operation⟩ :: (operation.perform state).state.moments rest

/-- All that is carried out when operations run, with callbacks up to a given depth. -/
def trace (state : State) (depth : Nat) (operations : List Operation) : List Operation :=
  Reply.traceEach (runEach (run depth) operations state).1

theorem moments_append (state : State) (first second : List Operation) :
    state.moments (first ++ second) =
      state.moments first ++ (state.after first).moments second := by
  induction first generalizing state with
  | nil => rfl
  | cons operation rest ih => exact congrArg (_ :: ·) (ih _)

theorem moments_map_operation (state : State) (operations : List Operation) :
    (state.moments operations).map Moment.operation = operations := by
  induction operations generalizing state with
  | nil => rfl
  | cons operation rest ih => exact congrArg (operation :: ·) (ih _)

theorem mem_moments_iff {state : State} {operations : List Operation} {moment : Moment} :
    moment ∈ state.moments operations ↔
      ∃ first rest, operations = first ++ moment.operation :: rest ∧
        moment.state = state.after first := by
  induction operations generalizing state with
  | nil => simp [moments]
  | cons operation rest ih =>
    simp only [moments, List.mem_cons, ih]
    constructor
    · intro member
      rcases member with rfl | ⟨first, behind, rfl, found⟩
      · exact ⟨[], rest, rfl, rfl⟩
      · exact ⟨operation :: first, behind, rfl, found⟩
    · intro ⟨first, behind, split, found⟩
      cases first with
      | nil =>
        cases split
        cases moment
        cases found
        exact Or.inl rfl
      | cons head tail =>
        cases split
        exact Or.inr ⟨tail, behind, rfl, found⟩

end State

mutual

/-- The operations and answers of a reply, in the order in which the operations were carried out. -/
def Reply.records : Reply → List (Operation × Answer)
  | ⟨operation, answer, inner, _⟩ => (operation, answer) :: Reply.recordsEach inner

def Reply.recordsEach : List Reply → List (Operation × Answer)
  | [] => []
  | reply :: rest => reply.records ++ Reply.recordsEach rest

end

/-- The operation of a moment and its answer. -/
def Moment.record (moment : Moment) : Operation × Answer :=
  (moment.operation, moment.answer)

/-- The moments of a first part of a run and of the rest, which is carried out from the state that
the first part leaves. -/
theorem State.moments_split {state : State} {operations : List Operation}
    {earlier later : List Moment} (split : state.moments operations = earlier ++ later) :
    earlier = state.moments (earlier.map Moment.operation) ∧
      later = (state.after (earlier.map Moment.operation)).moments
        (later.map Moment.operation) := by
  induction earlier generalizing state operations with
  | nil =>
    refine ⟨rfl, ?_⟩
    rw [List.nil_append] at split
    rw [← split, state.moments_map_operation]
    rfl
  | cons moment earlier ih =>
    cases operations with
    | nil => cases split
    | cons operation rest =>
      obtain ⟨rfl, behind⟩ := List.cons_eq_cons.mp split
      obtain ⟨same, remaining⟩ := ih behind
      exact ⟨congrArg (_ :: ·) same, remaining⟩

theorem State.moments_split_at {state : State} {operations : List Operation}
    {earlier later : List Moment} {moment : Moment}
    (split : state.moments operations = earlier ++ moment :: later) :
    earlier = state.moments (earlier.map Moment.operation) ∧
      moment.state = state.after (earlier.map Moment.operation) ∧
      later = moment.after.moments (later.map Moment.operation) := by
  obtain ⟨before, onwards⟩ := State.moments_split split
  obtain ⟨same, behind⟩ := List.cons_eq_cons.mp onwards
  have found : moment.state = state.after (earlier.map Moment.operation) :=
    congrArg Moment.state same
  rw [← found] at behind
  exact ⟨before, found, behind⟩

theorem State.records_split {state : State} {operations : List Operation}
    {history rest : List (Operation × Answer)}
    (told : (state.moments operations).map Moment.record = history ++ rest) :
    history = (state.moments (history.map Prod.fst)).map Moment.record ∧
      rest = ((state.after (history.map Prod.fst)).moments (rest.map Prod.fst)).map
        Moment.record := by
  obtain ⟨earlier, later, split, rfl, rfl⟩ := List.map_eq_append_iff.mp told
  obtain ⟨before, behind⟩ := State.moments_split split
  rw [List.map_map, List.map_map]
  exact ⟨congrArg (List.map Moment.record) before, congrArg (List.map Moment.record) behind⟩

theorem records_runEach_of (step : Operation → State → Reply × State)
    (stateTraced : ∀ operation state,
      (step operation state).2 = state.after (step operation state).1.trace)
    (recorded : ∀ operation state, (step operation state).1.records =
      (state.moments (step operation state).1.trace).map Moment.record)
    (operations : List Operation) (state : State) :
    Reply.recordsEach (runEach step operations state).1 =
      (state.moments (Reply.traceEach (runEach step operations state).1)).map Moment.record := by
  induction operations generalizing state with
  | nil => rfl
  | cons operation rest ih =>
    simp only [runEach, Reply.recordsEach, Reply.traceEach]
    rw [State.moments_append, List.map_append, ← stateTraced, ← recorded, ih]

theorem records_run (depth : Nat) (operation : Operation) (state : State) :
    (run depth operation state).1.records =
      (state.moments (run depth operation state).1.trace).map Moment.record := by
  induction depth generalizing operation state with
  | zero => rfl
  | succ depth ih =>
    simp only [run, Reply.records, Reply.trace]
    exact congrArg (_ :: ·) (records_runEach_of (run depth) (run_state depth) ih _ _)

theorem records_runEach (depth : Nat) (operations : List Operation) (state : State) :
    Reply.recordsEach (runEach (run depth) operations state).1 =
      (state.moments (state.trace depth operations)).map Moment.record :=
  records_runEach_of (run depth) (run_state depth) (records_run depth) operations state

theorem map_fst_records (depth : Nat) (operations : List Operation) (state : State) :
    (Reply.recordsEach (runEach (run depth) operations state).1).map Prod.fst =
      state.trace depth operations := by
  rw [records_runEach, List.map_map]
  exact state.moments_map_operation _

section

variable {α β : Type} (register : α → Option β)

/-- What the last of some events that write to a register has written to it. -/
def lastWritten (events : List α) : Option β :=
  (events.filterMap register).getLast?

theorem lastWritten_concat (events : List α) (event : α) :
    lastWritten register (events ++ [event]) =
      (register event).or (lastWritten register events) := by
  unfold lastWritten
  cases written : register event <;> simp [List.filterMap_append, written]

theorem lastWritten_cons (event : α) (events : List α) :
    lastWritten register (event :: events) =
      (lastWritten register events).or (register event) := by
  unfold lastWritten
  cases written : register event with
  | none => simp [written]
  | some value => simp [written, List.getLast?_cons]

end

end RosClient
