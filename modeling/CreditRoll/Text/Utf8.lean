namespace CreditRoll.Text.Utf8

/-- The state inside a character of several bytes: how many are still to come, the range of the
next one, and the value of those read. -/
structure Pending where
  missing : Nat
  low : UInt8
  high : UInt8
  value : Nat

/-- What a byte between characters begins: a whole character, nothing at all (`inl none`), or a
longer character. Overlong forms, surrogates and values above `0x10FFFF` are ruled out by the range
of the second byte. -/
def start (b : UInt8) : Option Char ⊕ Pending :=
  let n := b.toNat
  if b < 0x80 then .inl (some (Char.ofNat n))
  else if b < 0xC2 then .inl none
  else if b < 0xE0 then .inr ⟨1, 0x80, 0xBF, n - 0xC0⟩
  else if b = 0xE0 then .inr ⟨2, 0xA0, 0xBF, 0⟩
  else if b = 0xED then .inr ⟨2, 0x80, 0x9F, 0xD⟩
  else if b < 0xF0 then .inr ⟨2, 0x80, 0xBF, n - 0xE0⟩
  else if b = 0xF0 then .inr ⟨3, 0x90, 0xBF, 0⟩
  else if b < 0xF4 then .inr ⟨3, 0x80, 0xBF, n - 0xF0⟩
  else if b = 0xF4 then .inr ⟨3, 0x80, 0x8F, 4⟩
  else .inl none

def Pending.next (p : Pending) (b : UInt8) : Option (Char ⊕ Pending) :=
  if p.low ≤ b && b ≤ p.high then
    let value := 64 * p.value + (b.toNat - 0x80)
    if p.missing ≤ 1 then some (.inl (Char.ofNat value))
    else some (.inr ⟨p.missing - 1, 0x80, 0xBF, value⟩)
  else none

/-- The characters of a byte sequence, with `none` for each longest stretch that begins a character
and cannot be completed, and for each byte that begins none. -/
def scanFrom : Option Pending → List UInt8 → List (Option Char)
  | none, [] => []
  | some _, [] => [none]
  | none, b :: bs =>
    match start b with
    | .inl c => c :: scanFrom none bs
    | .inr p => scanFrom (some p) bs
  | some p, b :: bs =>
    match p.next b with
    | some (.inl c) => some c :: scanFrom none bs
    | some (.inr q) => scanFrom (some q) bs
    | none =>
      none ::
        match start b with
        | .inl c => c :: scanFrom none bs
        | .inr q => scanFrom (some q) bs

def scan (bytes : List UInt8) : List (Option Char) :=
  scanFrom none bytes

def encode (s : List Char) : List UInt8 :=
  s.flatMap String.utf8EncodeChar

def decode? (bytes : List UInt8) : Option (List Char) :=
  (scan bytes).mapM id

def decodeLossy (bytes : List UInt8) : List Char :=
  (scan bytes).map (·.getD '\uFFFD')

end CreditRoll.Text.Utf8
