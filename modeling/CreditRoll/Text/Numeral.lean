namespace CreditRoll.Text

def natural? (s : List Char) : Option Nat :=
  if !s.isEmpty && s.all Char.isDigit then
    some (s.foldl (fun n c ↦ 10 * n + (c.toNat - '0'.toNat)) 0)
  else none

def word64Max : Nat := Nat.pow 2 64 - 1

def word64? (s : List Char) : Option Nat :=
  (natural? s).filter (· ≤ word64Max)

def signedWord64? : List Char → Option Nat
  | '+' :: s => word64? s
  | s => word64? s

end CreditRoll.Text
