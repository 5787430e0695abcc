import CreditRoll.Json.Value
import CreditRoll.Text.Numeral

namespace CreditRoll.Json

def valuesOf (name : String) (members : List (Option String × Json)) : List Json :=
  (members.filter (·.1 == some name)).map Prod.snd

def hasTextNames (members : List (Option String × Json)) : Bool :=
  members.all (·.1.isSome)

def required? {α : Type} (name : String) (read? : Json → Option α)
    (members : List (Option String × Json)) : Option α :=
  match valuesOf name members with
  | [v] => read? v
  | _ => none

def optional? {α : Type} (name : String) (read? : Json → Option α) (default : α)
    (members : List (Option String × Json)) : Option α :=
  match valuesOf name members with
  | [] => some default
  | [v] => read? v
  | _ => none

def text? : Json → Option String
  | .string s => s
  | _ => none

def textOrNull? : Json → Option (Option String)
  | .null => some none
  | .string (some s) => some (some s)
  | _ => none

def count? : Json → Option Nat
  | .number lexeme => Text.word64? lexeme.toList
  | _ => none

end CreditRoll.Json
