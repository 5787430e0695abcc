import CreditRoll.Json.Token
import CreditRoll.Number.Double
import CreditRoll.Text.Quoted

namespace CreditRoll.Yaml

inductive Meaning where
  | null
  | bool (b : Bool)
  | integer (n : Int)
  | double (negative : Bool) (size : Double)
  | infinity (negative : Bool)
  | notANumber
  | text (s : String)
  deriving DecidableEq, Repr

namespace Meaning

def null? (s : List Char) : Option Meaning :=
  if ["null", "Null", "NULL", "~"].contains (String.ofList s) then some .null else none

def bool? (s : List Char) : Option Meaning :=
  if ["true", "True", "TRUE"].contains (String.ofList s) then some (.bool true)
  else if ["false", "False", "FALSE"].contains (String.ofList s) then some (.bool false)
  else none

def inBase? (base : Nat) (s : List Char) : Option Nat := do
  guard !s.isEmpty
  let digits ← s.mapM fun c ↦ (Json.Token.hexValue? c).filter (· < base)
  return digits.foldl (base * · + ·) 0

/-- Whether digits begin with a zero that is not all of them. Such digits are no number. -/
def hasIdleZero : List Char → Bool
  | '0' :: d :: s => (d :: s).all Char.isDigit
  | _ => false

def whole? : List Char → Option Nat
  | '0' :: 'x' :: s => inBase? 16 s
  | '0' :: 'o' :: s => inBase? 8 s
  | '0' :: 'b' :: s => inBase? 2 s
  | s => if hasIdleZero s then none else Text.natural? s

def unsigned : List Char → List Char
  | '+' :: s => s
  | '-' :: s => s
  | s => s

def isNegative (s : List Char) : Bool :=
  s.head? == some '-'

def integer? (s : List Char) : Option Meaning := do
  let n ← whole? (unsigned s)
  if isNegative s then
    guard (n ≤ Nat.pow 2 127)
    return .integer (-n)
  else
    guard (n < Nat.pow 2 128)
    return .integer n

def number? (s : List Char) : Option Meaning :=
  if [".inf", ".Inf", ".INF"].contains (String.ofList (unsigned s)) then
    some (.infinity (isNegative s))
  else if [".nan", ".NaN", ".NAN"].contains (String.ofList s) then some .notANumber
  else (Double.ofLiteral? (unsigned s)).map (.double (isNegative s))

def ofPlain (s : String) : Meaning :=
  let t := s.toList
  if t.isEmpty then .null
  else
    let number := if hasIdleZero (unsigned t) then none else number? t
    ((((null? t).or (bool? t)).or (integer? t)).or number).getD (.text s)

def describe : Meaning → String
  | null => "unit value"
  | bool b => "boolean `" ++ (if b then "true" else "false") ++ "`"
  | integer n =>
    "integer `" ++ toString n ++ "`" ++
      (if n ≥ Nat.pow 2 64 then " as u128"
      else if n < -(Nat.pow 2 63 : Nat) then " as i128"
      else "")
  | double negative size =>
    "floating point `" ++ (if negative then "-" else "") ++ size.text ++ "`"
  | infinity negative => "floating point `" ++ (if negative then "-" else "") ++ "inf`"
  | notANumber => "floating point `NaN`"
  | text s => "string " ++ Text.quoted s

end Meaning

end CreditRoll.Yaml
