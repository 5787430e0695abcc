namespace CreditRoll

/-- A JSON value. A string that is not Unicode text (a lone surrogate escape, undecodable bytes) is
kept as `none`, a number as it is written, and an object with all its members in order. -/
inductive Json where
  | null
  | bool (b : Bool)
  | number (lexeme : String)
  | string (s : Option String)
  | array (items : List Json)
  | object (members : List (Option String × Json))
  deriving Inhabited

namespace Json

def ofText (s : String) : Json :=
  .string (some s)

def ofNat (n : Nat) : Json :=
  .number (toString n)

def ofMembers (members : List (String × Json)) : Json :=
  .object (members.map fun m ↦ (some m.1, m.2))

end Json

end CreditRoll
