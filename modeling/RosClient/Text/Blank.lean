namespace RosClient.Text

/-- The twenty-five characters with the property `White_Space`. -/
def isBlank (c : Char) : Bool :=
  let n := c.toNat
  (0x09 ≤ n && n ≤ 0x0D) || n == 0x20 || n == 0x85 || n == 0xA0 || n == 0x1680 ||
    (0x2000 ≤ n && n ≤ 0x200A) || n == 0x2028 || n == 0x2029 || n == 0x202F || n == 0x205F ||
    n == 0x3000

/-- The characters between the first and the last one that is not blank. -/
def trimChars (chars : List Char) : List Char :=
  ((chars.dropWhile isBlank).reverse.dropWhile isBlank).reverse

def trim (text : String) : String :=
  String.ofList (trimChars text.toList)

theorem toList_trim (text : String) : (trim text).toList = trimChars text.toList :=
  String.toList_ofList

theorem trimChars_of_all {chars : List Char} (h : ∀ c ∈ chars, isBlank c = true) :
    trimChars chars = [] := by
  have dropped : chars.dropWhile isBlank = [] := by
    induction chars with
    | nil => rfl
    | cons c rest ih =>
      rw [List.dropWhile_cons_of_pos (h c List.mem_cons_self)]
      exact ih fun d hd => h d (List.mem_cons_of_mem c hd)
  simp [trimChars, dropped]

end RosClient.Text
