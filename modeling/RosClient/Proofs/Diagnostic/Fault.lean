import RosClient.Fault

namespace RosClient

theorem starts_literal {text : String} {c : Char} {tail : List Char}
    (same : text = String.ofList (c :: tail)) : ∃ tail, text.toList = c :: tail :=
  ⟨tail, by rw [same, String.toList_ofList]⟩

theorem starts_append {text rest : String} {c : Char}
    (starts : ∃ tail, text.toList = c :: tail) : ∃ tail, (text ++ rest).toList = c :: tail := by
  obtain ⟨tail, same⟩ := starts
  exact ⟨tail ++ rest.toList, by rw [String.toList_append, same]; rfl⟩

theorem Fault.message_starts (fault : Fault) :
    (∃ name, fault = .nullArgument name) ∨
      ∃ c ∈ ['a', 'c', 'f', 'i', 'r', 't', 'R'], ∃ tail, fault.message.toList = c :: tail := by
  cases fault with
  | nullArgument name => exact Or.inl ⟨name, rfl⟩
  | negativeCount | missingVector => exact Or.inr ⟨'a', by decide, starts_literal rfl⟩
  | nullItem index =>
    exact Or.inr ⟨'a', by decide, starts_append (starts_append (starts_literal rfl))⟩
  | argumentIndex index count =>
    exact Or.inr ⟨'a', by decide,
      starts_append (starts_append (starts_append (starts_append (starts_literal rfl))))⟩
  | contextInitialized | contextUninitialized | contextInvalid | contextUnusable
  | clockInitialized | clockUninitialized | clockUnreadable | overrideMissing | negativeNow =>
    exact Or.inr ⟨'c', by decide, starts_literal rfl⟩
  | notRosTime action => exact Or.inr ⟨'c', by decide, starts_append (starts_literal rfl)⟩
  | badArguments cause => exact Or.inr ⟨'f', by decide, starts_append (starts_literal rfl)⟩
  | readingFailed reason => exact Or.inr ⟨'f', by decide, starts_append (starts_literal rfl)⟩
  | optionsInitialized | optionsUninitialized => exact Or.inr ⟨'i', by decide, starts_literal rfl⟩
  | contextShutDown | contextValid => exact Or.inr ⟨'r', by decide, starts_literal rfl⟩
  | timerInitialized | timerUninitialized | timerCanceled =>
    exact Or.inr ⟨'t', by decide, starts_literal rfl⟩
  | negativePeriod period => exact Or.inr ⟨'t', by decide, starts_append (starts_literal rfl)⟩
  | timerNotReady remaining =>
    exact Or.inr ⟨'t', by decide, starts_append (starts_append (starts_literal rfl))⟩
  | badDomain text =>
    exact Or.inr ⟨'R', by decide, starts_append (starts_append (starts_literal rfl))⟩

/-- The words behind the name of an argument end in another character than those of no diagnostic.
-/
theorem nullArgument_diagnostic_ne_unknown (name : String) :
    (Fault.nullArgument name).diagnostic ≠ "unknown error" := by
  intro same
  have words : (Fault.nullArgument name).message.toList =
      name.toList ++ " argument is null".toList := String.toList_append
  have last := congrArg (·.toList.getLast?) same
  simp only [Fault.diagnostic, String.toList_ofList, words, List.map_append,
    List.getLast?_append] at last
  have letters : (" argument is null".toList.map fun c =>
      if c.toNat = 0 then ' ' else c).getLast? = some 'l' := by
    decide
  rw [letters, Option.some_or] at last
  revert last
  decide

theorem Fault.diagnostic_ne_unknown (fault : Fault) : fault.diagnostic ≠ "unknown error" := by
  rcases fault.message_starts with ⟨name, rfl⟩ | ⟨c, among, tail, starts⟩
  · exact nullArgument_diagnostic_ne_unknown name
  · intro same
    have chars := congrArg String.toList same
    rw [Fault.diagnostic, String.toList_ofList, starts] at chars
    have kept : ['a', 'c', 'f', 'i', 'r', 't', 'R'].all fun c =>
        (if c.toNat = 0 then ' ' else c) != 'u' := by
      decide
    exact bne_iff_ne.mp (List.all_eq_true.mp kept c among) (List.cons.inj chars).1

theorem Fault.diagnostic_of_no_nul {fault : Fault}
    (clean : ∀ c ∈ fault.message.toList, c.toNat ≠ 0) : fault.diagnostic = fault.message := by
  have kept : (fault.message.toList.map fun c => if c.toNat = 0 then ' ' else c) =
      fault.message.toList :=
    (List.map_congr_left fun c member => if_neg (clean c member)).trans (List.map_id _)
  rw [Fault.diagnostic, kept, String.ofList_toList]

theorem toNat_ne_zero_of_mem_repr {n : Nat} {c : Char} (member : c ∈ n.repr.toList) :
    c.toNat ≠ 0 := by
  rw [Nat.toList_repr] at member
  have digit := Nat.isDigit_of_mem_toDigits (by decide) (by decide) member
  intro zero
  rw [Char.isDigit_iff_toNat, zero] at digit
  exact absurd digit.1 (by decide)

theorem toNat_ne_zero_of_mem_toString {n : Int} {c : Char} (member : c ∈ (toString n).toList) :
    c.toNat ≠ 0 := by
  cases n with
  | ofNat n => exact toNat_ne_zero_of_mem_repr member
  | negSucc n =>
    have signed : c ∈ ("-" ++ (n + 1).repr).toList := member
    rw [String.toList_append, List.mem_append] at signed
    rcases signed with sign | digit
    · rw [List.mem_singleton.mp sign]
      decide
    · exact toNat_ne_zero_of_mem_repr digit

theorem toNat_ne_zero_of_all {text : String} (clean : text.toList.all (·.toNat != 0)) {c : Char}
    (member : c ∈ text.toList) : c.toNat ≠ 0 :=
  bne_iff_ne.mp (List.all_eq_true.mp clean c member)

theorem Fault.toList_message_timerNotReady (remaining : Nanos) :
    (Fault.timerNotReady remaining).message.toList =
      "timer is not ready to be called, next call in ".toList ++
        (toString remaining.value).toList ++ " ns".toList :=
  String.toList_append.trans (congrArg (· ++ _) String.toList_append)

theorem Fault.diagnostic_timerNotReady (remaining : Nanos) :
    (Fault.timerNotReady remaining).diagnostic =
      s!"timer is not ready to be called, next call in {remaining.value} ns" := by
  apply diagnostic_of_no_nul
  intro c member
  rw [toList_message_timerNotReady, List.mem_append, List.mem_append] at member
  rcases member with (word | digit) | word
  · exact toNat_ne_zero_of_all (by decide) word
  · exact toNat_ne_zero_of_mem_toString digit
  · exact toNat_ne_zero_of_all (by decide) word

theorem Fault.toList_message_argumentIndex (index count : Nat) :
    (Fault.argumentIndex index count).message.toList =
      "argument index ".toList ++ index.repr.toList ++ " out of range (".toList ++
        count.repr.toList ++ " unparsed arguments)".toList := by
  simp only [← String.toList_append]
  rfl

theorem Fault.diagnostic_argumentIndex (index count : Nat) :
    (Fault.argumentIndex index count).diagnostic =
      s!"argument index {index} out of range ({count} unparsed arguments)" := by
  apply diagnostic_of_no_nul
  intro c member
  simp only [toList_message_argumentIndex, List.mem_append] at member
  rcases member with (((word | digit) | word) | digit) | word
  · exact toNat_ne_zero_of_all (by decide) word
  · exact toNat_ne_zero_of_mem_repr digit
  · exact toNat_ne_zero_of_all (by decide) word
  · exact toNat_ne_zero_of_mem_repr digit
  · exact toNat_ne_zero_of_all (by decide) word

end RosClient
