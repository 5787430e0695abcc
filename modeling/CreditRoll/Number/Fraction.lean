namespace CreditRoll

structure Fraction where
  num : Nat
  den : Nat
  deriving DecidableEq, Repr

namespace Fraction

def scaled (n base : Nat) : (e : Int) → Fraction
  | .ofNat k => ⟨n * Nat.pow base k, 1⟩
  | .negSucc k => ⟨n, Nat.pow base (k + 1)⟩

def lt (x y : Fraction) : Bool :=
  x.num * y.den < y.num * x.den

def quotient (x y : Fraction) : Nat :=
  (x.num * y.den) / (x.den * y.num)

def nearest (x y : Fraction) : Nat :=
  let q := quotient x y
  let rest := 2 * ((x.num * y.den) % (x.den * y.num))
  let half := x.den * y.num
  if rest < half || (rest == half && q % 2 == 0) then q else q + 1

def distance (x y : Fraction) : Fraction :=
  let a := x.num * y.den
  let b := y.num * x.den
  ⟨max a b - min a b, x.den * y.den⟩

end Fraction

end CreditRoll
