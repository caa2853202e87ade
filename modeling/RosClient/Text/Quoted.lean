import RosClient.Text.Unshown

namespace RosClient.Text

def hexDigit (n : Nat) : Char :=
  if n < 10 then Char.ofNat ('0'.toNat + n) else Char.ofNat ('a'.toNat + (n - 10))

/-- The hexadecimal digits of a code point, without leading zeros. -/
def hexDigits (n : Nat) : List Char :=
  let digits := [n / 1048576 % 16, n / 65536 % 16, n / 4096 % 16, n / 256 % 16, n / 16 % 16, n % 16]
  let shown := digits.dropWhile (· == 0)
  (if shown.isEmpty then [0] else shown).map hexDigit

def quoteChar (c : Char) : List Char :=
  if c = '"' then ['\\', '"']
  else if c = '\\' then ['\\', '\\']
  else if c = '\t' then ['\\', 't']
  else if c = '\n' then ['\\', 'n']
  else if c = '\r' then ['\\', 'r']
  else if c.toNat = 0 then ['\\', '0']
  else if isUnshown c then ['\\', 'u', '\x7b'] ++ hexDigits c.toNat ++ ['\x7d']
  else [c]

def quote (text : String) : String :=
  String.ofList ('"' :: (text.toList.flatMap quoteChar ++ ['"']))

/-- An optional text: `None`, or `Some` and the quoted text in brackets. -/
def quoteOption : Option String → String
  | none => "None"
  | some text => "Some(" ++ quote text ++ ")"

end RosClient.Text
