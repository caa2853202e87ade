namespace RosClient

/-- A number of nanoseconds in the signed 64-bit range. -/
structure Nanos where
  value : Int
  least : -9223372036854775808 ≤ value
  greatest : value ≤ 9223372036854775807
  deriving DecidableEq

namespace Nanos

/-- The number of the range that is nearest to `n`. -/
def clamp (n : Int) : Nanos :=
  ⟨max (-9223372036854775808) (min n 9223372036854775807), by omega, by omega⟩

def zero : Nanos :=
  ⟨0, by omega, by omega⟩

/-- The last number of the range. -/
def last : Nanos :=
  ⟨9223372036854775807, by omega, by omega⟩

/-- The sum, or the end of the range that it passes. -/
def add (a b : Nanos) : Nanos :=
  clamp (a.value + b.value)

/-- The difference, or the end of the range that it passes. -/
def sub (a b : Nanos) : Nanos :=
  clamp (a.value - b.value)

instance : Inhabited Nanos := ⟨zero⟩

@[ext] theorem ext {a b : Nanos} (h : a.value = b.value) : a = b := by
  cases a
  cases b
  cases h
  rfl

theorem value_clamp (n : Int) :
    (clamp n).value = max (-9223372036854775808) (min n 9223372036854775807) :=
  rfl

theorem value_clamp_of_mem {n : Int} (lower : -9223372036854775808 ≤ n)
    (upper : n ≤ 9223372036854775807) : (clamp n).value = n := by
  rw [value_clamp]
  omega

theorem value_clamp_of_least {n : Int} (lower : -9223372036854775808 ≤ n) :
    (clamp n).value = min n 9223372036854775807 := by
  rw [value_clamp]
  omega

@[simp] theorem clamp_value (a : Nanos) : clamp a.value = a :=
  ext (value_clamp_of_mem a.least a.greatest)

theorem value_add (a b : Nanos) :
    (a.add b).value = max (-9223372036854775808) (min (a.value + b.value) 9223372036854775807) :=
  rfl

theorem value_sub (a b : Nanos) :
    (a.sub b).value = max (-9223372036854775808) (min (a.value - b.value) 9223372036854775807) :=
  rfl

@[simp] theorem value_last : last.value = 9223372036854775807 :=
  rfl

end Nanos

end RosClient
