import Mathlib.Tactic.SplitIfs
import RosClient.Text.Utf8

namespace RosClient.Text.Utf8

theorem toNat_ofNat {n : Nat} (small : n < 256) : (UInt8.ofNat n).toNat = n :=
  Nat.mod_eq_of_lt small

section

variable {octet : UInt8} {pending : Pending} (rest : List UInt8)

theorem scanFrom_opens (starts : start octet = .sequence pending) :
    scanFrom none (octet :: rest) = scanFrom (some pending) rest := by
  simp only [scanFrom, step, open?, starts, List.nil_append]

theorem scanFrom_continues (low : pending.low ≤ octet.toNat) (high : octet.toNat ≤ pending.high)
    (more : 1 < pending.more) :
    scanFrom (some pending) (octet :: rest) =
      scanFrom (some ⟨pending.more - 1, 0x80, 0xBF, pending.value * 64 + (octet.toNat - 0x80)⟩)
        rest := by
  have notLast : ¬ pending.more ≤ 1 := by omega
  simp only [scanFrom, step, low, high, and_self, ↓reduceIte, notLast, List.nil_append]

theorem scanFrom_completes (low : pending.low ≤ octet.toNat) (high : octet.toNat ≤ pending.high)
    (last : pending.more ≤ 1) :
    scanFrom (some pending) (octet :: rest) =
      some (Char.ofNat (pending.value * 64 + (octet.toNat - 0x80))) :: scanFrom none rest := by
  simp only [scanFrom, step, low, high, and_self, ↓reduceIte, last, List.singleton_append]

end

theorem start_char {octet : UInt8} (upper : octet.toNat < 0x80) :
    start octet = .char (Char.ofNat octet.toNat) := by
  simp only [start, upper, ↓reduceIte]

theorem start_two {octet : UInt8} (lower : 0xC2 ≤ octet.toNat) (upper : octet.toNat < 0xE0) :
    start octet = .sequence ⟨1, 0x80, 0xBF, octet.toNat - 0xC0⟩ := by
  simp only [start]
  split_ifs <;> first | omega | rfl

/-- Behind the first start of three octets and behind the one before the surrogates, the range of
the next octet is smaller. -/
theorem start_three {octet : UInt8} (lower : 0xE0 ≤ octet.toNat) (upper : octet.toNat < 0xF0) :
    start octet = .sequence ⟨2, if octet.toNat = 0xE0 then 0xA0 else 0x80,
      if octet.toNat = 0xED then 0x9F else 0xBF, octet.toNat - 0xE0⟩ := by
  simp only [start]
  split_ifs <;> first | omega | simp_all

theorem start_four {octet : UInt8} (lower : 0xF0 ≤ octet.toNat) (upper : octet.toNat < 0xF5) :
    start octet = .sequence ⟨3, if octet.toNat = 0xF0 then 0x90 else 0x80,
      if octet.toNat = 0xF4 then 0x8F else 0xBF, octet.toNat - 0xF0⟩ := by
  simp only [start]
  split_ifs <;> first | omega | simp_all

theorem toNat_valid (c : Char) : c.toNat < 0xD800 ∨ 0xDFFF < c.toNat ∧ c.toNat < 0x110000 :=
  c.valid

theorem scanFrom_encodeChar (c : Char) (rest : List UInt8) :
    scanFrom none (encodeChar c ++ rest) = some c :: scanFrom none rest := by
  have valid := toNat_valid c
  have same {value : Nat} (equal : value = c.toNat) : Char.ofNat value = c := by
    rw [equal, Char.ofNat_toNat]
  unfold encodeChar
  generalize c.toNat = n at valid same
  simp only
  split_ifs with one two three
  · have first := toNat_ofNat (n := n) (by omega)
    simp only [List.singleton_append, scanFrom, step, open?, start_char (first.symm ▸ one),
      List.singleton_append]
    rw [same first]
  · have first := toNat_ofNat (n := 0xC0 + n / 64) (by omega)
    have second := toNat_ofNat (n := 0x80 + n % 64) (by omega)
    rw [List.cons_append, scanFrom_opens _ (start_two (by omega) (by omega)),
      List.singleton_append, scanFrom_completes _ (by simp only; omega) (by simp only; omega)
        (Nat.le_refl 1)]
    rw [same (by simp only; omega)]
  · have first := toNat_ofNat (n := 0xE0 + n / 4096) (by omega)
    have second := toNat_ofNat (n := 0x80 + n / 64 % 64) (by omega)
    have third := toNat_ofNat (n := 0x80 + n % 64) (by omega)
    rw [List.cons_append, scanFrom_opens _ (start_three (by omega) (by omega)),
      List.cons_append, scanFrom_continues _ (by simp only; split_ifs <;> omega)
        (by simp only; split_ifs <;> omega) (by simp only; omega),
      List.singleton_append, scanFrom_completes _ (by simp only; omega) (by simp only; omega)
        (Nat.le_refl 1)]
    rw [same (by simp only; omega)]
  · have first := toNat_ofNat (n := 0xF0 + n / 262144) (by omega)
    have second := toNat_ofNat (n := 0x80 + n / 4096 % 64) (by omega)
    have third := toNat_ofNat (n := 0x80 + n / 64 % 64) (by omega)
    have fourth := toNat_ofNat (n := 0x80 + n % 64) (by omega)
    rw [List.cons_append, scanFrom_opens _ (start_four (by omega) (by omega)),
      List.cons_append, scanFrom_continues _ (by simp only; split_ifs <;> omega)
        (by simp only; split_ifs <;> omega) (by simp only; omega),
      List.cons_append, scanFrom_continues _ (by simp only; omega) (by simp only; omega)
        (by simp only; omega),
      List.singleton_append, scanFrom_completes _ (by simp only; omega) (by simp only; omega)
        (Nat.le_refl 1)]
    rw [same (by simp only; omega)]

theorem scan_flatMap_encodeChar (chars : List Char) :
    scan (chars.flatMap encodeChar) = chars.map some := by
  unfold scan
  induction chars with
  | nil => rfl
  | cons c rest ih => rw [List.flatMap_cons, scanFrom_encodeChar, ih, List.map_cons]

/-- A text is read back from its octets. -/
theorem decodeLossy_encode (text : String) : decodeLossy (encode text) = text := by
  unfold decodeLossy encode
  rw [scan_flatMap_encodeChar, List.map_map]
  change String.ofList (text.toList.map id) = text
  rw [List.map_id, String.ofList_toList]

theorem zero_mem_encodeChar {c : Char} : 0 ∈ encodeChar c ↔ c.toNat = 0 := by
  have valid := toNat_valid c
  have zero {n : Nat} (small : n < 256) : (0 = UInt8.ofNat n) ↔ n = 0 := by
    rw [← UInt8.toNat_inj, toNat_ofNat small]
    exact eq_comm
  unfold encodeChar
  generalize c.toNat = n at valid
  simp only
  split_ifs with one two three
  · rw [List.mem_singleton, zero (by omega)]
  · simp only [List.mem_cons, List.not_mem_nil, or_false]
    rw [zero (by omega), zero (by omega)]
    omega
  · simp only [List.mem_cons, List.not_mem_nil, or_false]
    rw [zero (by omega), zero (by omega), zero (by omega)]
    omega
  · simp only [List.mem_cons, List.not_mem_nil, or_false]
    rw [zero (by omega), zero (by omega), zero (by omega), zero (by omega)]
    omega

theorem zero_mem_encode {text : String} : 0 ∈ encode text ↔ ∃ c ∈ text.toList, c.toNat = 0 := by
  simp only [encode, List.mem_flatMap, zero_mem_encodeChar]

/-- How many values a number of octets can give together. -/
def valuesOf : Nat → Nat
  | 0 => 1
  | octets + 1 => 64 * valuesOf octets

/-- The least code point that can come of an open sequence. -/
def Pending.least (pending : Pending) : Nat :=
  (pending.value * 64 + (pending.low - 0x80)) * valuesOf (pending.more - 1)

/-- The first code point behind those that can come of an open sequence. -/
def Pending.bound (pending : Pending) : Nat :=
  (pending.value * 64 + (pending.high - 0x80) + 1) * valuesOf (pending.more - 1)

/-- All that can come of an open sequence are characters other than NUL. -/
structure Pending.IsSound (pending : Pending) : Prop where
  expects : 1 ≤ pending.more
  positive : 0 < pending.least
  character : pending.bound ≤ 0xD800 ∨ 0xDFFF < pending.least ∧ pending.bound ≤ 0x110000

theorem toNat_charOfNat {n : Nat} (valid : n < 0xD800 ∨ 0xDFFF < n ∧ n < 0x110000) :
    (Char.ofNat n).toNat = n := by
  unfold Char.ofNat
  rw [dif_pos valid]
  rfl

theorem start_isSound {octet : UInt8} {pending : Pending}
    (starts : start octet = .sequence pending) : pending.IsSound := by
  have small : octet.toNat < 256 := octet.toNat_lt
  unfold start at starts
  generalize octet.toNat = n at small starts
  simp only at starts
  split_ifs at starts
  all_goals
    cases starts
    constructor
    all_goals
      simp only [Pending.least, Pending.bound, Nat.reduceSub, valuesOf]
      omega

theorem toNat_ne_zero_of_start {octet : UInt8} {c : Char} (nonzero : octet ≠ 0)
    (starts : start octet = .char c) : c.toNat ≠ 0 := by
  unfold start at starts
  simp only at starts
  split_ifs at starts with ascii
  cases starts
  rw [toNat_charOfNat (Or.inl (by omega))]
  intro zero
  exact nonzero (UInt8.toNat_inj.mp zero)

theorem Pending.IsSound.continued {pending : Pending} (sound : pending.IsSound) {n : Nat}
    (low : pending.low ≤ n) (high : n ≤ pending.high) (notLast : ¬ pending.more ≤ 1) :
    Pending.IsSound ⟨pending.more - 1, 0x80, 0xBF, pending.value * 64 + (n - 0x80)⟩ := by
  obtain ⟨expects, positive, character⟩ := sound
  have split : valuesOf (pending.more - 1) = 64 * valuesOf (pending.more - 1 - 1) := by
    obtain ⟨behind, more⟩ : ∃ behind, pending.more - 1 = behind + 1 :=
      ⟨pending.more - 2, by omega⟩
    rw [more]
    rfl
  generalize successor :
    (⟨pending.more - 1, 0x80, 0xBF, pending.value * 64 + (n - 0x80)⟩ : Pending) = next
  have leastNext : next.least =
      (pending.value * 64 + (n - 0x80)) * valuesOf (pending.more - 1) := by
    rw [← successor, split, ← Nat.mul_assoc]
    simp only [Pending.least, Nat.sub_self, Nat.add_zero]
  have boundNext : next.bound =
      (pending.value * 64 + (n - 0x80) + 1) * valuesOf (pending.more - 1) := by
    rw [← successor, split, ← Nat.mul_assoc, Nat.add_mul _ 1]
    simp only [Pending.bound, Nat.reduceSub, Nat.add_assoc, Nat.reduceAdd, Nat.one_mul]
  have above : pending.least ≤ next.least := by
    rw [leastNext]
    exact Nat.mul_le_mul_right _ (by omega)
  have below : next.bound ≤ pending.bound := by
    rw [boundNext]
    exact Nat.mul_le_mul_right _ (by omega)
  have expectsNext : 1 ≤ next.more := by
    rw [← successor]
    simp only
    omega
  exact ⟨expectsNext, by omega, by omega⟩

theorem Pending.IsSound.completed {pending : Pending} (sound : pending.IsSound) {n : Nat}
    (low : pending.low ≤ n) (high : n ≤ pending.high) (last : pending.more ≤ 1) :
    (Char.ofNat (pending.value * 64 + (n - 0x80))).toNat ≠ 0 := by
  obtain ⟨expects, positive, character⟩ := sound
  have one : pending.more - 1 = 0 := by omega
  simp only [Pending.least, Pending.bound, one, valuesOf, Nat.mul_one] at positive character
  rw [toNat_charOfNat (by omega)]
  omega

/-- What an octet other than zero does at a character boundary: it completes no NUL, and the
sequence that it opens is sound. -/
theorem open_sound {octet : UInt8} (nonzero : octet ≠ 0) :
    (∀ c, some c ∈ (open? octet).1 → c.toNat ≠ 0) ∧
      ∀ pending, (open? octet).2 = some pending → pending.IsSound := by
  unfold open?
  cases starts : start octet with
  | char c =>
    refine ⟨fun other member => ?_, nofun⟩
    cases List.mem_singleton.mp member
    exact toNat_ne_zero_of_start nonzero starts
  | sequence pending =>
    refine ⟨nofun, fun other same => ?_⟩
    cases same
    exact start_isSound starts
  | illFormed =>
    refine ⟨fun other member => ?_, nofun⟩
    cases List.mem_singleton.mp member

theorem step_sound {state : Option Pending} (sound : ∀ pending ∈ state, pending.IsSound)
    {octet : UInt8} (nonzero : octet ≠ 0) :
    (∀ c, some c ∈ (step state octet).1 → c.toNat ≠ 0) ∧
      ∀ pending ∈ (step state octet).2, pending.IsSound := by
  cases state with
  | none => exact open_sound nonzero
  | some pending =>
    have here := sound pending rfl
    simp only [step]
    split_ifs with range last
    · refine ⟨fun other member => ?_, nofun⟩
      rw [Option.some.inj (List.mem_singleton.mp member)]
      exact here.completed range.1 range.2 last
    · refine ⟨fun other member => absurd member List.not_mem_nil, fun other same => ?_⟩
      obtain rfl := Option.some.inj same
      exact here.continued range.1 range.2 last
    · obtain ⟨characters, opened⟩ := open_sound nonzero
      refine ⟨fun other member => ?_, opened⟩
      exact characters other ((List.mem_cons.mp member).resolve_left nofun)

theorem scanFrom_sound {octets : List UInt8} (nonzero : 0 ∉ octets) {state : Option Pending}
    (sound : ∀ pending ∈ state, pending.IsSound) {c : Char}
    (member : some c ∈ scanFrom state octets) : c.toNat ≠ 0 := by
  induction octets generalizing state with
  | nil =>
    cases state with
    | none => cases member
    | some pending => cases List.mem_singleton.mp member
  | cons octet rest ih =>
    rw [List.mem_cons, not_or] at nonzero
    obtain ⟨characters, kept⟩ := step_sound sound (Ne.symm nonzero.1)
    have split : some c ∈ (step state octet).1 ++ scanFrom (step state octet).2 rest := by
      cases state <;> exact member
    rcases List.mem_append.mp split with now | later
    · exact characters c now
    · exact ih nonzero.2 kept later

theorem toNat_ne_zero_of_mem_decodeLossy {octets : List UInt8} (nonzero : 0 ∉ octets) {c : Char}
    (member : c ∈ (decodeLossy octets).toList) : c.toNat ≠ 0 := by
  rw [decodeLossy, String.toList_ofList] at member
  obtain ⟨part, among, rfl⟩ := List.mem_map.mp member
  cases part with
  | none => decide
  | some c =>
    have closed : ∀ pending ∈ (none : Option Pending), pending.IsSound := nofun
    exact scanFrom_sound nonzero closed among

theorem throughCString_of_no_nul {text : String} (clean : ∀ c ∈ text.toList, c.toNat ≠ 0) :
    throughCString text = text := by
  have nonzero : (encode text).contains 0 = false := by
    rw [List.contains_eq_mem, decide_eq_false_iff_not, zero_mem_encode]
    rintro ⟨c, member, zero⟩
    exact clean c member zero
  rw [throughCString, nonzero, decodeLossy_encode]
  rfl

end RosClient.Text.Utf8
