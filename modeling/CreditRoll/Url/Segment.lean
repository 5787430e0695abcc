import CreditRoll.Text.Utf8

namespace CreditRoll.Url.Segment

/-- The bytes that stand for themselves in a path segment: printable ASCII without the space and the
characters that end a segment, begin an escape or are unsafe in an address. -/
def keeps (b : UInt8) : Bool :=
  0x21 ≤ b && b ≤ 0x7E && !(b == 0x22 || b == 0x23 || b == 0x25 || b == 0x2F || b == 0x3C ||
    b == 0x3E || b == 0x3F || b == 0x60 || b == 0x7B || b == 0x7D)

def hexDigit (n : Nat) : Char :=
  if n < 10 then Char.ofNat ('0'.toNat + n) else Char.ofNat ('A'.toNat + (n - 10))

def encodeByte (b : UInt8) : List Char :=
  if keeps b then [Char.ofNat b.toNat]
  else ['%', hexDigit (b.toNat / 16), hexDigit (b.toNat % 16)]

def encode (s : String) : String :=
  String.ofList ((Text.Utf8.encode s.toList).flatMap encodeByte)

end CreditRoll.Url.Segment
