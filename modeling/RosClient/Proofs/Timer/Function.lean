import RosClient.Proofs.Timer.Order

namespace RosClient

theorem TimerEvent.Makes.callback {event : TimerEvent} {state : State} {before : Option Timer}
    {timer : Timer} (made : event.Makes state before (some timer)) :
    (∃ clock period, event = .init clock period timer.callback) ∨
      ∃ earlier, before = some earlier ∧ earlier.callback = timer.callback := by
  cases event with
  | untouched => exact Or.inr ⟨timer, made.symm, rfl⟩
  | init clock period callback =>
    obtain ⟨_, _, _, _, same⟩ := made
    cases same
    exact Or.inl ⟨clock, period, rfl⟩
  | call =>
    obtain ⟨earlier, found, _, _, _, _, _, _, same⟩ := made
    cases same
    exact Or.inr ⟨earlier, found, rfl⟩
  | reset =>
    obtain ⟨earlier, found, _, _, same⟩ := made
    cases same
    exact Or.inr ⟨earlier, found, rfl⟩
  | cancel =>
    obtain ⟨earlier, found, same⟩ := made
    cases same
    exact Or.inr ⟨earlier, found, rfl⟩
  | exchange period =>
    obtain ⟨earlier, found, _, same⟩ := made
    cases same
    exact Or.inr ⟨earlier, found, rfl⟩
  | fini => cases made

theorem body_callTimer {state : State} {place : Place}
    (idle : ∀ timer callback, state.objects.timers place = some timer →
      timer.callback = some callback → ∀ elapsed, callback.body elapsed = []) :
    (TimerCall.call.perform (some place) state).body = [] := by
  cases outcome : Verdict.callTimer (some place) state with
  | error fault => rw [State.callTimer_of_error outcome]
  | ok commit =>
    rw [State.callTimer_of_ok outcome]
    obtain ⟨_, timer, ⟨here, present⟩, _, _, _, _, _, _, rfl⟩ := Verdict.callTimer_eq_ok.mp outcome
    cases here
    cases given : timer.callback with
    | none => simp only [Firing.body, Option.map_none, Option.getD_none]
    | some callback =>
      simp only [Firing.body, Option.map_some, Option.getD_some]
      exact idle timer callback present given _

end RosClient
