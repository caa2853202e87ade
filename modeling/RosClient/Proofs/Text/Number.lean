import Mathlib.Data.List.Basic
import Mathlib.Data.List.Induction
import Mathlib.Data.List.TakeWhile
import Mathlib.Data.Nat.Digits.Defs
import RosClient.Text.Blank
import RosClient.Text.Decimal

namespace RosClient.Text

/-- Whether a text consists of nothing but blank characters. -/
def IsBlank (text : String) : Prop :=
  ∀ c ∈ text.toList, isBlank c = true

/-- Whether a text denotes a number, with blanks around it allowed. -/
def Denotes (text : String) (value : Nat) : Prop :=
  ∃ before sign digits after : List Char,
    text.toList = before ++ (sign ++ digits) ++ after ∧
      (∀ c ∈ before, isBlank c = true) ∧ (∀ c ∈ after, isBlank c = true) ∧
      (sign = [] ∨ sign = ['+']) ∧ digits ≠ [] ∧ (∀ c ∈ digits, c.isDigit = true) ∧
      value = Nat.ofDigits 10 (digits.reverse.map fun c => c.toNat - '0'.toNat)

theorem isDigit_eq (c : Char) : isDigit c = c.isDigit := by
  simp only [isDigit, Char.isDigit, Char.le_def, ge_iff_le]

theorem digitsValue_eq (digits : List Char) :
    digitsValue digits = Nat.ofDigits 10 (digits.reverse.map fun c => c.toNat - '0'.toNat) := by
  induction digits using List.reverseRecOn with
  | nil => rfl
  | append_singleton digits last ih =>
    rw [List.reverse_concat, List.map_cons, Nat.ofDigits_cons, ← ih, digitsValue,
      List.foldl_append]
    exact Nat.add_comm _ _

theorem readUnsigned_eq_some_iff {chars : List Char} {value : Nat} :
    readUnsigned chars = some value ↔
      ∃ sign digits : List Char, chars = sign ++ digits ∧ (sign = [] ∨ sign = ['+']) ∧
        digits ≠ [] ∧ (∀ c ∈ digits, isDigit c = true) ∧ digitsValue digits = value := by
  unfold readUnsigned
  split
  · next digits =>
    rw [readDigits_eq_some_iff]
    constructor
    · intro read
      exact ⟨['+'], digits, rfl, Or.inr rfl, read⟩
    · rintro ⟨sign, others, same, rfl | rfl, filled, decimal, valued⟩
      · rw [List.nil_append] at same
        subst same
        cases decimal '+' List.mem_cons_self
      · cases same
        exact ⟨filled, decimal, valued⟩
  · next unsigned =>
    rw [readDigits_eq_some_iff]
    constructor
    · intro read
      exact ⟨[], chars, rfl, Or.inl rfl, read⟩
    · rintro ⟨sign, digits, rfl, rfl | rfl, read⟩
      · exact read
      · exact absurd rfl (unsigned digits)

theorem dropWhile_of_head {chars : List Char}
    (bare : ∀ c, chars.head? = some c → isBlank c = false) : chars.dropWhile isBlank = chars := by
  cases chars with
  | nil => rfl
  | cons c rest =>
    exact List.dropWhile_cons_of_neg (Bool.not_eq_true _ ▸ bare c rfl)

theorem trimChars_between {before chars after : List Char}
    (blankBefore : ∀ c ∈ before, isBlank c = true) (blankAfter : ∀ c ∈ after, isBlank c = true)
    (first : ∀ c, chars.head? = some c → isBlank c = false)
    (last : ∀ c, chars.getLast? = some c → isBlank c = false) (filled : chars ≠ []) :
    trimChars (before ++ chars ++ after) = chars := by
  have started : (before ++ chars ++ after).dropWhile isBlank = chars ++ after := by
    rw [List.append_assoc, List.dropWhile_append_of_pos blankBefore]
    refine dropWhile_of_head fun c found => first c ?_
    rwa [List.head?_append_of_ne_nil _ filled] at found
  rw [trimChars, started, List.reverse_append, List.dropWhile_append_of_pos, dropWhile_of_head,
    List.reverse_reverse]
  · intro c found
    exact last c (List.head?_reverse ▸ found)
  · intro c member
    exact blankAfter c (List.mem_reverse.mp member)

theorem trimChars_cut (chars : List Char) :
    ∃ before after : List Char, chars = before ++ trimChars chars ++ after ∧
      (∀ c ∈ before, isBlank c = true) ∧ ∀ c ∈ after, isBlank c = true := by
  let started := chars.dropWhile isBlank
  refine ⟨chars.takeWhile isBlank, (started.reverse.takeWhile isBlank).reverse, ?_,
    fun _ => List.mem_takeWhile_imp, ?_⟩
  · have ended : trimChars chars ++ (started.reverse.takeWhile isBlank).reverse = started := by
      rw [trimChars, ← List.reverse_append, List.takeWhile_append_dropWhile, List.reverse_reverse]
    rw [List.append_assoc, ended, List.takeWhile_append_dropWhile]
  · intro c member
    exact List.mem_takeWhile_imp (List.mem_reverse.mp member)

theorem isBlank_of_isDigit {c : Char} (digit : isDigit c = true) : isBlank c = false := by
  have range : 48 ≤ c.toNat ∧ c.toNat ≤ 57 := by
    rw [isDigit_eq, Char.isDigit_iff_toNat] at digit
    exact digit
  simp only [isBlank, Bool.or_eq_false_iff, Bool.and_eq_false_iff, decide_eq_false_iff_not,
    beq_eq_false_iff_ne]
  omega

theorem unsigned?_trim_eq_some_iff {text : String} {value : Nat} :
    unsigned? (trim text) = some value ↔ Denotes text value := by
  unfold unsigned?
  rw [toList_trim, readUnsigned_eq_some_iff]
  constructor
  · rintro ⟨sign, digits, trimmed, signed, filled, decimal, rfl⟩
    obtain ⟨before, after, cut, blankBefore, blankAfter⟩ := trimChars_cut text.toList
    rw [trimmed] at cut
    exact ⟨before, sign, digits, after, cut, blankBefore, blankAfter, signed, filled,
      fun c member => isDigit_eq c ▸ decimal c member, digitsValue_eq digits⟩
  · rintro ⟨before, sign, digits, after, cut, blankBefore, blankAfter, signed, filled, decimal,
      rfl⟩
    have digital (c : Char) (member : c ∈ digits) : isDigit c = true :=
      (isDigit_eq c).trans (decimal c member)
    refine ⟨sign, digits, ?_, signed, filled, digital, digitsValue_eq digits⟩
    rw [cut]
    refine trimChars_between blankBefore blankAfter ?_ ?_ (by simp [filled])
    · intro c first
      rcases signed with rfl | rfl
      · exact isBlank_of_isDigit (digital c (List.mem_of_head? first))
      · cases first
        rfl
    · intro c last
      rw [List.getLast?_append_of_ne_nil _ filled] at last
      exact isBlank_of_isDigit (digital c (List.mem_of_getLast? last))

theorem trim_eq_empty_iff {text : String} : trim text = "" ↔ IsBlank text := by
  rw [← String.toList_inj, toList_trim]
  constructor
  · intro nothing c member
    obtain ⟨before, after, cut, blankBefore, blankAfter⟩ := trimChars_cut text.toList
    rw [nothing] at cut
    rw [cut] at member
    rcases List.mem_append.mp member with inFirst | inLast
    · exact blankBefore c (by simpa using inFirst)
    · exact blankAfter c inLast
  · intro blank
    rw [trimChars_of_all blank]
    rfl

end RosClient.Text
