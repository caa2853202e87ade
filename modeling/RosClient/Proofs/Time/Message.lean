import Mathlib.Data.Prod.Lex
import RosClient.Time

namespace RosClient

namespace TimeMessage

/-- The nanoseconds that a message stands for. -/
def total (message : TimeMessage) : Int :=
  message.seconds.toInt * nanosPerSecond + message.nanoseconds.toNat

/-- Messages are compared by their seconds, then by their nanoseconds. -/
def key (message : TimeMessage) : Int32 ×ₗ UInt32 :=
  toLex (message.seconds, message.nanoseconds)

/-- A message whose nanoseconds do not make up a second. -/
def IsNormal (message : TimeMessage) : Prop :=
  message.nanoseconds < 1000000000

instance (message : TimeMessage) : Decidable message.IsNormal :=
  inferInstanceAs (Decidable (_ < _))

/-- The message with whole seconds carried over from its nanoseconds, or the last one if the seconds
have no room for them. -/
def carried (message : TimeMessage) : TimeMessage :=
  let seconds := message.seconds.toInt + message.nanoseconds.toNat / 1000000000
  if seconds ≤ 2147483647 then ⟨.ofInt seconds, message.nanoseconds % 1000000000⟩ else .last

theorem total_last : last.total = 2147483647999999999 := by
  decide

theorem isNormal_iff {message : TimeMessage} :
    message.IsNormal ↔ message.nanoseconds.toNat < 1000000000 :=
  UInt32.lt_iff_toNat_lt

theorem IsNormal.total_le {message : TimeMessage} (normal : message.IsNormal) :
    message.total ≤ last.total := by
  have short := isNormal_iff.mp normal
  have bound := message.seconds.toInt_lt
  rw [total_last, total, nanosPerSecond]
  omega

theorem key_le_iff {first second : TimeMessage} (normal : first.IsNormal)
    (normalToo : second.IsNormal) : first.key ≤ second.key ↔ first.total ≤ second.total := by
  have short := isNormal_iff.mp normal
  have shortToo := isNormal_iff.mp normalToo
  rw [key, key, Prod.Lex.toLex_le_toLex]
  dsimp only
  rw [Int32.lt_iff_toInt_lt, ← Int32.toInt_inj, UInt32.le_iff_toNat_le, total, total,
    nanosPerSecond]
  omega

theorem IsNormal.eq_of_total {first second : TimeMessage} (normal : first.IsNormal)
    (normalToo : second.IsNormal) (same : first.total = second.total) : first = second := by
  have short := isNormal_iff.mp normal
  have shortToo := isNormal_iff.mp normalToo
  rw [total, total, nanosPerSecond] at same
  cases first
  cases second
  rw [mk.injEq, ← Int32.toInt_inj, ← UInt32.toNat_inj]
  dsimp only at same short shortToo
  omega

theorem total_ofInt {seconds : Int} {nanoseconds : Nat} (low : 0 ≤ seconds)
    (high : seconds ≤ 2147483647) (short : nanoseconds < 1000000000) :
    IsNormal ⟨.ofInt seconds, .ofNat nanoseconds⟩ ∧
      total ⟨.ofInt seconds, .ofNat nanoseconds⟩ = seconds * nanosPerSecond + nanoseconds := by
  have read : (UInt32.ofNat nanoseconds).toNat = nanoseconds :=
    UInt32.toNat_ofNat_of_lt' (Nat.lt_trans short (by decide))
  refine ⟨isNormal_iff.mpr (read.symm ▸ short), ?_⟩
  rw [total, read, Int32.toInt_ofInt_of_le (by omega) (by omega)]

/-- Carrying makes a message normal and changes nothing of what it stands for, short of the last. -/
theorem carried_spec {message : TimeMessage} (nonnegative : 0 ≤ message.seconds.toInt) :
    message.carried.IsNormal ∧ message.carried.total = min message.total last.total := by
  have whole := Nat.div_add_mod message.nanoseconds.toNat 1000000000
  have short : message.nanoseconds.toNat % 1000000000 < 1000000000 := Nat.mod_lt _ (by decide)
  have rest : message.nanoseconds % 1000000000 =
      .ofNat (message.nanoseconds.toNat % 1000000000) := by
    apply UInt32.toNat_inj.mp
    rw [UInt32.toNat_mod, UInt32.toNat_ofNat_of_lt' (Nat.lt_trans short (by decide))]
    rfl
  unfold carried
  simp only
  split
  · next room =>
    rw [rest]
    obtain ⟨normal, spelled⟩ := total_ofInt (by omega) room short
    refine ⟨normal, ?_⟩
    rw [spelled, total_last, total, nanosPerSecond]
    omega
  · next noRoom =>
    refine ⟨by decide, ?_⟩
    rw [total_last, total, nanosPerSecond]
    omega

theorem carried_eq_self_iff {message : TimeMessage} (nonnegative : 0 ≤ message.seconds.toInt) :
    message.carried = message ↔ message.IsNormal := by
  obtain ⟨normal, same⟩ := carried_spec nonnegative
  constructor
  · intro unchanged
    exact unchanged ▸ normal
  · intro normalToo
    rw [Int.min_eq_left normalToo.total_le] at same
    exact normal.eq_of_total normalToo same

end TimeMessage

open TimeMessage

namespace Time

/-- A time is written as the normal message that stands for it, or as the last message. -/
theorem toMessage_spec (time : Time) :
    time.toMessage.IsNormal ∧
      time.toMessage.total = min time.nanoseconds.value TimeMessage.last.total := by
  have nonnegative := time.nonnegative
  unfold toMessage
  simp only
  split
  · next room =>
    change _ ≤ (2147483647 : Int) at room
    rw [nanosPerSecond] at room ⊢
    obtain ⟨normal, spelled⟩ := total_ofInt (by omega) room
      (show (time.nanoseconds.value % 1000000000).toNat < 1000000000 by omega)
    refine ⟨normal, ?_⟩
    rw [spelled, total_last, nanosPerSecond]
    omega
  · next noRoom =>
    change ¬ _ ≤ (2147483647 : Int) at noRoom
    rw [nanosPerSecond] at noRoom
    refine ⟨by decide, ?_⟩
    rw [total_last]
    omega

theorem seconds_toMessage_nonnegative (time : Time) : 0 ≤ time.toMessage.seconds.toInt := by
  obtain ⟨normal, spelled⟩ := time.toMessage_spec
  have short := isNormal_iff.mp normal
  have nonnegative := time.nonnegative
  rw [total_last, total, nanosPerSecond] at spelled
  omega

theorem ext {first second : Time} (same : first.nanoseconds.value = second.nanoseconds.value)
    (sameType : first.type = second.type) : first = second := by
  cases first
  cases second
  rw [mk.injEq]
  exact ⟨Nanos.ext same, sameType⟩

/-- A message without negative seconds is read, as what it stands for: no message stands for more
than 64 bits hold. -/
theorem ofMessage_of_nonnegative {message : TimeMessage}
    (nonnegative : 0 ≤ message.seconds.toInt) (type : ClockType) :
    ∃ time, ofMessage message type = .ok time ∧ time.type = type ∧
      time.nanoseconds.value = message.total := by
  have few := message.seconds.toInt_lt
  have short := message.nanoseconds.toNat_lt
  have low : 0 ≤ message.total := by
    rw [total, nanosPerSecond]
    omega
  have high : message.total ≤ 9223372036854775807 := by
    rw [total, nanosPerSecond]
    omega
  have unclamped : (Nanos.clamp message.total).value = message.total :=
    Nanos.value_clamp_of_mem (by omega) high
  refine ⟨⟨.clamp message.total, type, unclamped.symm ▸ low⟩, ?_, rfl, unclamped⟩
  have whole : ¬ (message.seconds.toInt < 0 ∨ (message.nanoseconds.toNat : Int) < 0) := by omega
  unfold ofMessage ofParts
  rw [if_neg whole]
  -- The sum that is checked is the total, by definition.
  change (if message.total ≤ 9223372036854775807 then ofNanos (.clamp message.total) type
    else _) = _
  rw [if_pos high, ofNanos, dif_pos (unclamped.symm ▸ low)]

theorem ofMessage_of_negative {message : TimeMessage} (negative : message.seconds.toInt < 0)
    (type : ClockType) : ofMessage message type = .error (.ofRejection .negativePart) := by
  rw [ofMessage, ofParts, if_pos (Or.inl negative)]

/-- A time comes back from its message, up to the last message; a later time has no earlier message,
and no message of a time spells a second in nanoseconds. Every message is read, unless its seconds
are negative, and writing what was read carries its nanoseconds over, so that the message comes back
exactly if they do not make up a second. -/
theorem messages_carry_times :
    (∀ time : Time, time.toMessage.nanoseconds < 1000000000 ∧
      ∃ back, ofMessage time.toMessage time.type = .ok back ∧ back.type = time.type ∧
        back.nanoseconds.value = min time.nanoseconds.value 2147483647999999999 ∧
        (time.nanoseconds.value < 2147483648 * nanosPerSecond → back = time)) ∧
    (∀ earlier later : Time, earlier.nanoseconds.value ≤ later.nanoseconds.value →
      earlier.toMessage.key ≤ later.toMessage.key) ∧
    ∀ (message : TimeMessage) (type : ClockType),
      (∀ e, ofMessage message type = .error e ↔
        message.seconds < 0 ∧ e = .ofRejection .negativePart) ∧
      (0 ≤ message.seconds → ∃ time, ofMessage message type = .ok time ∧ time.type = type ∧
        time.nanoseconds.value = message.total ∧ time.toMessage = message.carried ∧
        (time.toMessage = message ↔ message.nanoseconds < 1000000000)) := by
  refine ⟨fun time => ?_, fun earlier later inOrder => ?_, fun message type => ⟨fun e => ?_, ?_⟩⟩
  · obtain ⟨normal, spelled⟩ := time.toMessage_spec
    obtain ⟨back, read, typed, same⟩ :=
      ofMessage_of_nonnegative time.seconds_toMessage_nonnegative time.type
    rw [spelled, total_last] at same
    refine ⟨normal, back, read, typed, same, fun early => ?_⟩
    rw [nanosPerSecond] at early
    exact Time.ext (by omega) typed
  · obtain ⟨normal, spelled⟩ := earlier.toMessage_spec
    obtain ⟨normalToo, spelledToo⟩ := later.toMessage_spec
    rw [key_le_iff normal normalToo, spelled, spelledToo]
    omega
  · rw [Int32.lt_iff_toInt_lt]
    constructor
    · intro failed
      by_cases negative : message.seconds.toInt < 0
      · rw [ofMessage_of_negative negative] at failed
        exact ⟨negative, (Except.error.inj failed).symm⟩
      · obtain ⟨time, read, _⟩ := ofMessage_of_nonnegative (Int.not_lt.mp negative) type
        cases read.symm.trans failed
    · rintro ⟨negative, rfl⟩
      exact ofMessage_of_negative negative type
  · intro counted
    have nonnegative : 0 ≤ message.seconds.toInt := Int32.le_iff_toInt_le.mp counted
    obtain ⟨time, read, typed, same⟩ := ofMessage_of_nonnegative nonnegative type
    obtain ⟨normal, spelled⟩ := time.toMessage_spec
    obtain ⟨carriedNormal, carriedSame⟩ := carried_spec nonnegative
    have written : time.toMessage = message.carried := by
      apply normal.eq_of_total carriedNormal
      rw [spelled, carriedSame, same]
    exact ⟨time, read, typed, same, written, written ▸ carried_eq_self_iff nonnegative⟩

/-- Four seconds of nanoseconds take a message that is read past the last one that is written. What
comes back from the last message is earlier, and comes back from its own. -/
theorem messages_carry_times_past_last :
    (0 : Int32) ≤ 2147483644 ∧
      ∃ time back, ofMessage ⟨2147483644, 4294967295⟩ .rosTime = .ok time ∧
        time.nanoseconds.value = 2147483648294967295 ∧ time.toMessage = .last ∧
        ofMessage .last .rosTime = .ok back ∧
        back.nanoseconds.value = 2147483647999999999 ∧
        back.toMessage.key ≤ time.toMessage.key ∧
        ofMessage back.toMessage .rosTime = .ok back := by
  have counted : (0 : Int32) ≤ 2147483644 := by decide
  obtain ⟨times, ordered, messages⟩ := messages_carry_times
  obtain ⟨time, read, typed, same, written, _⟩ :=
    (messages ⟨2147483644, 4294967295⟩ .rosTime).2 counted
  have past : time.nanoseconds.value = 2147483648294967295 := same
  have last : time.toMessage = .last := written
  obtain ⟨_, back, readBack, typedBack, sameBack, _⟩ := times time
  rw [past] at sameBack
  have early : back.nanoseconds.value = 2147483647999999999 := sameBack
  have before : back.nanoseconds.value ≤ time.nanoseconds.value := by omega
  obtain ⟨_, again, readAgain, _, _, unchanged⟩ := times back
  rw [unchanged (by rw [early]; decide), typedBack, typed] at readAgain
  rw [last, typed] at readBack
  exact ⟨counted, time, back, read, past, last, readBack, early, ordered back time before,
    readAgain⟩

end Time

end RosClient
