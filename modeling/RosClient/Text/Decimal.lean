namespace RosClient.Text

def isDigit (c : Char) : Bool :=
  '0' ≤ c && c ≤ '9'

def digitValue (c : Char) : Nat :=
  c.toNat - '0'.toNat

/-- The number that a row of digits denotes. -/
def digitsValue (digits : List Char) : Nat :=
  digits.foldl (fun value digit => 10 * value + digitValue digit) 0

def readDigits (chars : List Char) : Option Nat :=
  if !chars.isEmpty && chars.all isDigit then some (digitsValue chars) else none

def readUnsigned : List Char → Option Nat
  | '+' :: digits => readDigits digits
  | digits => readDigits digits

/-- The unsigned number that a whole text denotes. -/
def unsigned? (text : String) : Option Nat :=
  readUnsigned text.toList

theorem readDigits_eq_some_iff {chars : List Char} {value : Nat} :
    readDigits chars = some value ↔
      chars ≠ [] ∧ (∀ c ∈ chars, isDigit c = true) ∧ digitsValue chars = value := by
  unfold readDigits
  split
  · next h => simp_all
  · next h =>
    simp only [Bool.and_eq_true, Bool.not_eq_true', List.isEmpty_eq_false_iff,
      List.all_eq_true] at h
    constructor
    · intro hn
      cases hn
    · rintro ⟨hne, hall, -⟩
      exact absurd ⟨hne, hall⟩ h

end RosClient.Text
