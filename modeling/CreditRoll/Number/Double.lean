import CreditRoll.Number.Fraction
import CreditRoll.Text.Numeral

namespace CreditRoll

/-- A number in double precision without its sign, `mantissa · 2 ^ exponent`. The mantissa has 53
bits, or fewer where the exponent is the least. -/
structure Double where
  mantissa : Nat
  exponent : Int
  deriving DecidableEq, Repr

namespace Double

def leastExponent : Int := -1074

def greatestExponent : Int := 971

def value (x : Double) : Fraction :=
  .scaled x.mantissa 2 x.exponent

def nearest? (x : Fraction) : Option Double :=
  let low := (x.num.log2 : Int) - x.den.log2 - 53
  let fitting := if x.quotient (.scaled 1 2 low) < Nat.pow 2 53 then low else low + 1
  let exponent := max fitting leastExponent
  let mantissa := x.nearest (.scaled 1 2 exponent)
  let rounded : Double :=
    if mantissa < Nat.pow 2 53 then ⟨mantissa, exponent⟩
    else ⟨Nat.pow 2 52, exponent + 1⟩
  if rounded.exponent ≤ greatestExponent then some rounded else none

/-- The nearest number to `n · 10 ^ e`. Where the power of ten alone decides, it is not computed. -/
def ofDecimal? (n : Nat) (e : Int) : Option Double :=
  let places := ((Nat.toDigits 10 n).length : Int) + e
  if n = 0 ∨ places < -330 then some ⟨0, leastExponent⟩
  else if places > 330 then none
  else nearest? (.scaled n 10 e)

def exponent? : List Char → Option Int
  | '-' :: s => (Text.natural? s).map fun n ↦ -(n : Int)
  | '+' :: s => (Text.natural? s).map Int.ofNat
  | s => (Text.natural? s).map Int.ofNat

def ofLiteral? (s : List Char) : Option Double := do
  let whole := s.takeWhile Char.isDigit
  let rest := s.dropWhile Char.isDigit
  let (places, rest) :=
    match rest with
    | '.' :: rest => (rest.takeWhile Char.isDigit, rest.dropWhile Char.isDigit)
    | rest => ([], rest)
  let digits ← Text.natural? (whole ++ places)
  let exponent ←
    match rest with
    | [] => some 0
    | 'e' :: rest => exponent? rest
    | 'E' :: rest => exponent? rest
    | _ => none
  ofDecimal? digits (exponent - places.length)

def magnitude (x : Double) : Int :=
  let guess := ((x.mantissa.log2 : Int) + x.exponent) * 30103 / 100000
  ([guess, guess + 1].find? fun e ↦ x.value.lt (.scaled 1 10 e)).getD (guess + 2)

def readable (x : Double) (digits : Nat) : List (Nat × Int) :=
  let e := x.magnitude - digits
  let n := x.value.quotient (.scaled 1 10 e)
  [(n, e), (n + 1, e)].filter fun d ↦ ofDecimal? d.1 d.2 = some x

/-- The digits of the shortest decimal that reads back as the number, and the power of ten that goes
with them. Of two such decimals it is the one nearer to the number. Without any digits, the decimal
above is the power of ten itself. -/
def shortest (x : Double) : Nat × Int :=
  let gap := fun d : Nat × Int ↦ (Fraction.scaled d.1 10 d.2).distance x.value
  match (List.range 18).findSome? fun digits ↦
      match x.readable digits with
      | [] => none
      | d :: ds => some (ds.foldl (fun a b ↦ if (gap b).lt (gap a) then b else a) d) with
  | some d => d
  | none => (0, 0)

def positional (n : Nat) : (e : Int) → String
  | .ofNat k => toString (n * Nat.pow 10 k) ++ ".0"
  | .negSucc k =>
    let digits := Nat.toDigits 10 n
    let digits := List.replicate (k + 2 - digits.length) '0' ++ digits
    let whole := digits.length - (k + 1)
    String.ofList (digits.take whole ++ '.' :: digits.drop whole)

def text (x : Double) : String :=
  if x.mantissa = 0 then "0.0"
  else
    let (n, e) := x.shortest
    positional n e

end Double

end CreditRoll
