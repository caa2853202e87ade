import RosClient.Arguments

namespace RosClient

/-- A text with `:=` between a left and a right side, where no `:=` starts further left. -/
structure SplitsAtFirst (text left right : List Char) : Prop where
  whole : text = left ++ ':' :: '=' :: right
  first : ∀ before behind, text = before ++ ':' :: '=' :: behind → left.length ≤ before.length

theorem splitsAtFirst_nil_left {text right left : List Char} :
    SplitsAtFirst (':' :: '=' :: text) left right ↔ [] = left ∧ text = right := by
  constructor
  · intro split
    have short := split.first [] text rfl
    have empty : left = [] := List.length_eq_zero_iff.mp (Nat.le_zero.mp short)
    have whole := split.whole
    subst empty
    simp only [List.nil_append, List.cons.injEq, true_and] at whole
    exact ⟨rfl, whole⟩
  · intro ⟨empty, same⟩
    subst empty same
    exact ⟨rfl, fun _ _ _ => Nat.zero_le _⟩

theorem splitsAtFirst_cons {c : Char} {rest left right : List Char}
    (elsewhere : ∀ behind, c = ':' → rest = '=' :: behind → False) :
    SplitsAtFirst (c :: rest) left right ↔
      ∃ tail, left = c :: tail ∧ SplitsAtFirst rest tail right := by
  constructor
  · intro split
    have whole := split.whole
    cases left with
    | nil =>
      simp only [List.nil_append, List.cons.injEq] at whole
      exact (elsewhere right whole.1 whole.2).elim
    | cons head tail =>
      simp only [List.cons_append, List.cons.injEq] at whole
      obtain ⟨rfl, whole⟩ := whole
      refine ⟨tail, rfl, whole, ?_⟩
      intro before behind same
      have long := split.first (c :: before) behind (congrArg (c :: ·) same)
      simpa only [List.length_cons, Nat.add_le_add_iff_right] using long
  · intro ⟨tail, here, split⟩
    subst here
    refine ⟨congrArg (c :: ·) split.whole, ?_⟩
    intro before behind same
    cases before with
    | nil =>
      simp only [List.nil_append, List.cons.injEq] at same
      exact (elsewhere behind same.1 same.2).elim
    | cons head before =>
      simp only [List.cons_append, List.cons.injEq] at same
      have long := split.first before behind same.2
      simpa only [List.length_cons, Nat.add_le_add_iff_right] using long

theorem splitAssignment_eq_some (text left right : List Char) :
    splitAssignment text = some (left, right) ↔ SplitsAtFirst text left right := by
  induction text using splitAssignment.induct generalizing left with
  | case1 =>
    simp only [splitAssignment, reduceCtorEq, false_iff]
    intro split
    have whole := split.whole
    simp at whole
  | case2 right =>
    rw [splitsAtFirst_nil_left]
    simp only [splitAssignment, Option.some.injEq, Prod.mk.injEq]
  | case3 c rest elsewhere ih =>
    rw [splitsAtFirst_cons elsewhere]
    simp only [splitAssignment, Option.map_eq_some_iff, Prod.exists, Prod.mk.injEq]
    constructor
    · intro ⟨tail, behind, found, here, same⟩
      subst same
      exact ⟨tail, here.symm, (ih tail).mp found⟩
    · intro ⟨tail, here, split⟩
      exact ⟨tail, right, (ih tail).mpr split, here.symm, rfl⟩

theorem assignment?_eq_some {text left right : String} :
    assignment? text = some (left, right) ↔
      SplitsAtFirst text.toList left.toList right.toList ∧ left ≠ "" := by
  rw [← splitAssignment_eq_some]
  unfold assignment?
  split
  · next c tail behind found =>
    rw [found]
    simp only [Option.some.injEq, Prod.mk.injEq]
    constructor
    · intro ⟨here, same⟩
      subst here same
      simp
    · intro ⟨⟨here, same⟩, _⟩
      simp [here, same]
  · next other =>
    simp only [reduceCtorEq, false_iff]
    intro ⟨found, nonempty⟩
    cases chars : left.toList with
    | nil => exact nonempty (String.toList_eq_nil_iff.mp chars)
    | cons c tail =>
      rw [chars] at found
      exact (other c tail right.toList found).elim

end RosClient
