import CreditRoll.Text.Blank
import CreditRoll.Text.Numeral

namespace CreditRoll.Http

abbrev Headers := List (String × String)

namespace Headers

def sameName (a b : String) : Bool :=
  a.toList.map Char.toLower == b.toList.map Char.toLower

def isReadable (c : Char) : Bool :=
  (0x20 ≤ c.toNat && c.toNat ≤ 0x7E) || c == '\t'

/-- The value of the first field of this name, if all of it can be read. A later field of the same
name is never looked at. -/
def text? (name : String) (headers : Headers) : Option (List Char) := do
  let (_, value) ← headers.find? (sameName name ·.1)
  guard (value.toList.all isReadable)
  return value.toList

def count? (name : String) (headers : Headers) : Option Nat := do
  Text.signedWord64? (Text.trim (← headers.text? name))

end Headers

end CreditRoll.Http
