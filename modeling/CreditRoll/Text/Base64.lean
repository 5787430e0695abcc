namespace CreditRoll.Text.Base64

def digit (n : Nat) : Char :=
  if n < 26 then Char.ofNat ('A'.toNat + n)
  else if n < 52 then Char.ofNat ('a'.toNat + (n - 26))
  else if n < 62 then Char.ofNat ('0'.toNat + (n - 52))
  else if n == 62 then '+'
  else '/'

def digits (n : Nat) : List Char :=
  [digit (n / 262144), digit (n / 4096 % 64), digit (n / 64 % 64), digit (n % 64)]

/-- Three bytes make four digits. Where fewer are left, equals signs stand for the digits that none
of their bits belong to. -/
def encode : List UInt8 → List Char
  | a :: b :: c :: rest => digits (65536 * a.toNat + 256 * b.toNat + c.toNat) ++ encode rest
  | [a, b] => (digits (65536 * a.toNat + 256 * b.toNat)).take 3 ++ ['=']
  | [a] => (digits (65536 * a.toNat)).take 2 ++ ['=', '=']
  | [] => []

end CreditRoll.Text.Base64
