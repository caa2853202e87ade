import RosClient.Operation

namespace RosClient

/-- The slots in use and their content. -/
structure Slots (α : Type) where
  entries : List (Slot × α) := []

namespace Slots

variable {α : Type}

/-- The content of a slot, if the slot is in use. -/
def get? (slots : Slots α) (slot : Slot) : Option α :=
  slots.entries.lookup slot

def erase (slots : Slots α) (slot : Slot) : Slots α :=
  ⟨slots.entries.filter fun entry => entry.1 != slot⟩

def put (slots : Slots α) (slot : Slot) (content : α) : Slots α :=
  ⟨(slot, content) :: (slots.erase slot).entries⟩

/-- Whether some content satisfies a test. -/
def any (slots : Slots α) (test : α → Bool) : Bool :=
  slots.entries.any fun entry => test entry.2

@[simp] theorem get?_put_self (slots : Slots α) (slot : Slot) (content : α) :
    (slots.put slot content).get? slot = some content := by
  simp [get?, put]

theorem lookup_filter_ne (entries : List (Slot × α)) {slot other : Slot} (h : other ≠ slot) :
    (entries.filter fun entry => entry.1 != slot).lookup other = entries.lookup other := by
  induction entries with
  | nil => rfl
  | cons entry rest ih =>
    obtain ⟨key, content⟩ := entry
    by_cases removed : key = slot
    · subst removed
      rw [List.filter_cons_of_neg (by simp), ih, List.lookup_cons, beq_false_of_ne h]
    · rw [List.filter_cons_of_pos (by simpa using removed), List.lookup_cons, List.lookup_cons, ih]

theorem lookup_filter_self (entries : List (Slot × α)) (slot : Slot) :
    (entries.filter fun entry => entry.1 != slot).lookup slot = none := by
  induction entries with
  | nil => rfl
  | cons entry rest ih =>
    obtain ⟨key, content⟩ := entry
    by_cases removed : key = slot
    · subst removed
      rw [List.filter_cons_of_neg (by simp), ih]
    · rw [List.filter_cons_of_pos (by simpa using removed), List.lookup_cons,
        beq_false_of_ne (Ne.symm removed), ih]

theorem get?_erase_of_ne (slots : Slots α) {slot other : Slot} (h : other ≠ slot) :
    (slots.erase slot).get? other = slots.get? other :=
  lookup_filter_ne slots.entries h

theorem get?_put_of_ne (slots : Slots α) {slot other : Slot} (content : α) (h : other ≠ slot) :
    (slots.put slot content).get? other = slots.get? other := by
  simp only [get?, put, List.lookup_cons]
  rw [beq_false_of_ne h]
  exact lookup_filter_ne slots.entries h

@[simp] theorem get?_erase_self (slots : Slots α) (slot : Slot) :
    (slots.erase slot).get? slot = none :=
  lookup_filter_self slots.entries slot

end Slots

end RosClient
