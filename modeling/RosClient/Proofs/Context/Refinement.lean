import RosClient.Proofs.Context.Init
import RosClient.Proofs.Session.HandleOperation

namespace RosClient

open Session

section

variable {session : Session} {slot : Slot}

theorem unparsedCount_of_present {place : Place} {context : Context} {state : State}
    (present : state.objects.contexts place = some context) :
    Verdict.unparsedCount (some place) true state =
      .ok (state.answer context.arguments.unparsed.length) := by
  simp only [Verdict.unparsedCount, Verdict.required, Verdict.requireOutput, ↓reduceIte, bind,
    Except.bind, Verdict.findContext_eq_ok.mpr ⟨rfl, present⟩]

theorem unparsedArgument_of_present {place : Place} {context : Context} {index : Nat}
    {state : State} (present : state.objects.contexts place = some context)
    (bound : index < context.arguments.unparsed.length) :
    Verdict.unparsedArgument (some place) index state =
      .ok (state.answer (Text.Utf8.throughCString (context.arguments.unparsed.getD index ""))) := by
  simp only [Verdict.unparsedArgument, Verdict.findContext_eq_ok.mpr ⟨rfl, present⟩, bind,
    Except.bind, List.getD_eq_getElem?_getD, List.getElem?_eq_getElem bound, Option.getD_some]

theorem argumentCalls_of_present {place : Place} {context : Context} (indices : List Nat)
    (within : ∀ index ∈ indices, index < context.arguments.unparsed.length) (state : State)
    (present : state.objects.contexts place = some context) :
    let texts := indices.map fun index =>
      Text.Utf8.throughCString (context.arguments.unparsed.getD index "")
    ∃ after,
      argumentCalls (some place) indices state = ⟨.status .ok (some (.texts texts)), after, []⟩ ∧
      (indices.mapM fun index =>
        attempt .unparsedArgument (Call.unparsedArgument (some place) index)) state =
          .ok texts after := by
  induction indices generalizing state with
  | nil => exact ⟨state, rfl, rfl⟩
  | cons index rest ih =>
    have accepted := unparsedArgument_of_present present (within index List.mem_cons_self)
    obtain ⟨after, listed, mapped⟩ :=
      ih (fun later member => within later (List.mem_cons_of_mem _ member))
        (state.committed (state.answer
          (Text.Utf8.throughCString (context.arguments.unparsed.getD index "")))) present
    refine ⟨after, ?_, ?_⟩
    · have first : (ContextCall.unparsed index).perform (some place) state =
          ⟨.value (.text (Text.Utf8.throughCString (context.arguments.unparsed.getD index ""))),
            state.committed (state.answer
              (Text.Utf8.throughCString (context.arguments.unparsed.getD index ""))), []⟩ := by
        simp only [ContextCall.perform, State.perform_of_ok accepted]
        rfl
      simp only [argumentCalls, first, listed, List.map_cons]
    · rw [List.mapM_cons, bind_of_ok (attempt_of_ok accepted)]
      exact bind_of_ok mapped

theorem map_range_getD {α β : Type} (items : List α) (missing : α) (change : α → β) :
    ((List.range items.length).map fun index => change (items.getD index missing)) =
      items.map change := by
  apply List.ext_getElem
  · simp
  · intro index _ within
    have bound : index < items.length := by simpa using within
    simp [List.getElem?_eq_getElem bound]

/-- The unparsed arguments of a context are listed, each as it comes out of a C string, and the
calls for them give the same. -/
theorem unparsed_of_present {place : Place} {context : Context} {state : State}
    (present : state.objects.contexts place = some context) :
    ∃ after,
      unparsedCalls (some place) state =
        ⟨.status .ok
          (some (.texts (context.arguments.unparsed.map Text.Utf8.throughCString))), after, []⟩ ∧
      ContextHandle.unparsed (some place) state =
        .ok (context.arguments.unparsed.map Text.Utf8.throughCString) after := by
  have counted := unparsedCount_of_present present
  let counting := state.committed (state.answer context.arguments.unparsed.length)
  have first : (ContextCall.unparsedCount true).perform (some place) state =
      ⟨.status .ok (some (.count context.arguments.unparsed.length)), counting, []⟩ :=
    State.respond_of_ok counted
  obtain ⟨after, listed, mapped⟩ := argumentCalls_of_present
    (List.range context.arguments.unparsed.length) (fun _ => List.mem_range.mp) counting present
  rw [map_range_getD] at listed mapped
  refine ⟨after, ?_, (bind_of_ok (attempt_of_ok counted)).trans mapped⟩
  simp only [unparsedCalls, first, listed]

end

end RosClient
