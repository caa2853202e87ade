namespace RosClient

/-- What a list of tokens says. -/
structure Arguments where
  remaps : List (String × String) := []
  params : List (String × String) := []
  paramsFiles : List String := []
  logLevel : Option String := none
  enclave : Option String := none
  unparsed : List String := []
  deriving DecidableEq

/-- Why a list of tokens cannot be read. -/
inductive ArgumentError where
  | missingValue (flag : String)
  | badAssignment (flag value : String)
  | unknown (token : String)
  deriving DecidableEq

def ArgumentError.message : ArgumentError → String
  | missingValue flag => s!"argument '{flag}' is missing its value"
  | badAssignment flag value =>
    s!"couldn't parse '{value}' after '{flag}': expected 'name:=value'"
  | unknown token => s!"found unknown ROS argument '{token}'"

/-- What the value after a flag is. -/
inductive Flag where
  | remap
  | param
  | paramsFile
  | logLevel
  | enclave
  deriving DecidableEq

def Flag.ofToken? (token : String) : Option Flag :=
  if token = "-r" ∨ token = "--remap" then some .remap
  else if token = "-p" ∨ token = "--param" then some .param
  else if token = "--log-level" then some .logLevel
  else if token = "-e" ∨ token = "--enclave" then some .enclave
  else if token = "--params-file" then some .paramsFile
  else none

/-- The characters before and after the first `:=`. -/
def splitAssignment : List Char → Option (List Char × List Char)
  | [] => none
  | ':' :: '=' :: right => some ([], right)
  | c :: rest => (splitAssignment rest).map fun (left, right) => (c :: left, right)

/-- A name, which may not be empty, and a value with `:=` between them. -/
def assignment? (text : String) : Option (String × String) :=
  match splitAssignment text.toList with
  | some (c :: left, right) => some (String.ofList (c :: left), String.ofList right)
  | _ => none

namespace Arguments

/-- The token that starts a section. -/
def sectionStart : String := "--ros-args"

/-- The token that ends a section. -/
def sectionEnd : String := "--"

/-- Two readings one after the other. The later log level and enclave take precedence. -/
def merge (a b : Arguments) : Arguments where
  remaps := a.remaps ++ b.remaps
  params := a.params ++ b.params
  paramsFiles := a.paramsFiles ++ b.paramsFiles
  logLevel := b.logLevel.or a.logLevel
  enclave := b.enclave.or a.enclave
  unparsed := a.unparsed ++ b.unparsed

/-- The reading of a token outside every section. -/
def plain (token : String) : Arguments :=
  { unparsed := [token] }

/-- The reading of one flag, as the token spells it, and its value. -/
def item (flag : Flag) (token value : String) : Except ArgumentError Arguments :=
  match flag with
  | .remap =>
    match assignment? value with
    | some pair => .ok { remaps := [pair] }
    | none => .error (.badAssignment token value)
  | .param =>
    match assignment? value with
    | some pair => .ok { params := [pair] }
    | none => .error (.badAssignment token value)
  | .paramsFile => .ok { paramsFiles := [value] }
  | .logLevel => .ok { logLevel := some value }
  | .enclave => .ok { enclave := some value }

mutual

/-- Reads tokens outside every section. -/
def parse : List String → Except ArgumentError Arguments
  | [] => .ok {}
  | token :: rest =>
    if token = sectionStart then parseSection rest
    else (parse rest).map (plain token).merge

/-- Reads tokens inside a section. -/
def parseSection : List String → Except ArgumentError Arguments
  | [] => .ok {}
  | token :: rest =>
    if token = sectionEnd then parse rest
    else if token = sectionStart then parseSection rest
    else
      match Flag.ofToken? token, rest with
      | none, _ => .error (.unknown token)
      | some _, [] => .error (.missingValue token)
      | some flag, value :: rest =>
        match item flag token value with
        | .error e => .error e
        | .ok first => (parseSection rest).map first.merge

end

@[simp] theorem merge_empty (a : Arguments) : a.merge {} = a := by
  simp [merge]

@[simp] theorem empty_merge (a : Arguments) : ({} : Arguments).merge a = a := by
  simp [merge]

theorem merge_assoc (a b c : Arguments) : (a.merge b).merge c = a.merge (b.merge c) := by
  simp [merge, List.append_assoc, Option.or_assoc]

end Arguments

end RosClient
