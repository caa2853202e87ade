namespace RosClient.Text.Utf8

/-- What a started sequence still expects: how many octets, the range of the next one, and the
value that the octets so far have given. -/
structure Pending where
  more : Nat
  low : Nat
  high : Nat
  value : Nat
  deriving DecidableEq

/-- What an octet starts when no sequence is open. -/
inductive Start where
  | char (c : Char)
  | sequence (pending : Pending)
  | illFormed

def start (octet : UInt8) : Start :=
  let b := octet.toNat
  if b < 0x80 then .char (Char.ofNat b)
  else if b < 0xC2 then .illFormed
  else if b < 0xE0 then .sequence ⟨1, 0x80, 0xBF, b - 0xC0⟩
  else if b = 0xE0 then .sequence ⟨2, 0xA0, 0xBF, 0⟩
  else if b = 0xED then .sequence ⟨2, 0x80, 0x9F, 0xD⟩
  else if b < 0xF0 then .sequence ⟨2, 0x80, 0xBF, b - 0xE0⟩
  else if b = 0xF0 then .sequence ⟨3, 0x90, 0xBF, 0⟩
  else if b < 0xF4 then .sequence ⟨3, 0x80, 0xBF, b - 0xF0⟩
  else if b = 0xF4 then .sequence ⟨3, 0x80, 0x8F, 4⟩
  else .illFormed

/-- The parts that an octet completes at a character boundary, and the sequence it leaves open. -/
def open? (octet : UInt8) : List (Option Char) × Option Pending :=
  match start octet with
  | .char c => ([some c], none)
  | .sequence pending => ([], some pending)
  | .illFormed => ([none], none)

/-- The parts that an octet completes, and the sequence it leaves open. An octet that does not
continue the open sequence ends it as ill-formed and is looked at afresh. -/
def step (state : Option Pending) (octet : UInt8) : List (Option Char) × Option Pending :=
  match state with
  | none => open? octet
  | some pending =>
    let b := octet.toNat
    if pending.low ≤ b ∧ b ≤ pending.high then
      let value := pending.value * 64 + (b - 0x80)
      if pending.more ≤ 1 then ([some (Char.ofNat value)], none)
      else ([], some ⟨pending.more - 1, 0x80, 0xBF, value⟩)
    else
      let (parts, next) := open? octet
      (none :: parts, next)

/-- The characters and, as `none`, the ill-formed parts of the octets from a state on. -/
def scanFrom : Option Pending → List UInt8 → List (Option Char)
  | none, [] => []
  | some _, [] => [none]
  | state, octet :: octets =>
    let (parts, next) := step state octet
    parts ++ scanFrom next octets

def scan (octets : List UInt8) : List (Option Char) :=
  scanFrom none octets

/-- The text of the octets, with U+FFFD for each ill-formed part. -/
def decodeLossy (octets : List UInt8) : String :=
  String.ofList ((scan octets).map fun part => part.getD '\uFFFD')

/-- The text of the octets if all of them are well-formed. -/
def decode? (octets : List UInt8) : Option String :=
  ((scan octets).mapM id).map String.ofList

/-- The octets of a character. -/
def encodeChar (c : Char) : List UInt8 :=
  let n := c.toNat
  if n < 0x80 then [UInt8.ofNat n]
  else if n < 0x800 then [UInt8.ofNat (0xC0 + n / 64), UInt8.ofNat (0x80 + n % 64)]
  else if n < 0x10000 then
    [UInt8.ofNat (0xE0 + n / 4096), UInt8.ofNat (0x80 + n / 64 % 64), UInt8.ofNat (0x80 + n % 64)]
  else
    [UInt8.ofNat (0xF0 + n / 262144), UInt8.ofNat (0x80 + n / 4096 % 64),
      UInt8.ofNat (0x80 + n / 64 % 64), UInt8.ofNat (0x80 + n % 64)]

def encode (text : String) : List UInt8 :=
  text.toList.flatMap encodeChar

/-- A text as it comes out of a C string. None of it does if it has a zero octet, which a C string
cannot hold. -/
def throughCString (text : String) : String :=
  if (encode text).contains 0 then "" else decodeLossy (encode text)

end RosClient.Text.Utf8
