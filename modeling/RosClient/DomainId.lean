import RosClient.Environment
import RosClient.Text.Blank
import RosClient.Text.Decimal

namespace RosClient

abbrev DomainId := UInt64

namespace DomainId

/-- The request that leaves the domain to the environment. -/
def unset : DomainId := 18446744073709551615

/-- The domain that a text names, blanks at its ends aside. -/
def parse? (text : String) : Option DomainId :=
  (Text.unsigned? (Text.trim text)).bind fun n =>
    if n < 18446744073709551616 then some (UInt64.ofNat n) else none

/-- The domain that the environment names, or the text that names none. -/
def fromEnvironment (environment : Environment) : Except String DomainId :=
  match environment.read .rosDomainId with
  | none => .ok 0
  | some text =>
    if Text.trim text = "" then .ok 0
    else
      match parse? text with
      | some domain => .ok domain
      | none => .error text

/-- The domain of a context for which `requested` was asked. -/
def resolve (environment : Environment) (requested : DomainId) : Except String DomainId :=
  if requested = unset then fromEnvironment environment else .ok requested

end DomainId

end RosClient
