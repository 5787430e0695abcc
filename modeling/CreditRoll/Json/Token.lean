namespace CreditRoll.Json

inductive Token where
  | openArray
  | closeArray
  | openObject
  | closeObject
  | comma
  | colon
  | null
  | bool (b : Bool)
  | number (lexeme : String)
  | string (s : Option String)
  deriving DecidableEq, Repr

/-- A text whose undecodable stretches stand as `none`. -/
abbrev Source := List (Option Char)

namespace Token

inductive Piece where
  | char (c : Char)
  | unit (n : Nat)
  | undecodable
  deriving DecidableEq, Repr

def hexValue? (c : Char) : Option Nat :=
  if c.isDigit then some (c.toNat - '0'.toNat)
  else if 'a' ≤ c ∧ c ≤ 'f' then some (c.toNat - 'a'.toNat + 10)
  else if 'A' ≤ c ∧ c ≤ 'F' then some (c.toNat - 'A'.toNat + 10)
  else none

def unit? (a b c d : Option Char) : Option Piece := do
  let a ← hexValue? (← a)
  let b ← hexValue? (← b)
  let c ← hexValue? (← c)
  let d ← hexValue? (← d)
  return .unit (((a * 16 + b) * 16 + c) * 16 + d)

def shortEscape? (c : Char) : Option Piece :=
  match c with
  | '"' => some (.char '"')
  | '\\' => some (.char '\\')
  | '/' => some (.char '/')
  | 'b' => some (.char '\x08')
  | 'f' => some (.char '\x0C')
  | 'n' => some (.char '\n')
  | 'r' => some (.char '\r')
  | 't' => some (.char '\t')
  | _ => none

def pieces? : Source → Option (List Piece × Source)
  | [] => none
  | some '"' :: rest => some ([], rest)
  | some '\\' :: some 'u' :: a :: b :: c :: d :: rest => do
    let piece ← unit? a b c d
    let (more, rest) ← pieces? rest
    return (piece :: more, rest)
  | some '\\' :: some c :: rest => do
    let piece ← shortEscape? c
    let (more, rest) ← pieces? rest
    return (piece :: more, rest)
  | some c :: rest =>
    if c.toNat < 0x20 ∨ c = '\\' then none
    else do
      let (more, rest) ← pieces? rest
      return (.char c :: more, rest)
  | none :: rest => do
    let (more, rest) ← pieces? rest
    return (.undecodable :: more, rest)

/-- The text that pieces spell. A high surrogate unit needs a low one after it, and a low one a high
one before it. -/
def spelled? : List Piece → Option (List Char)
  | [] => some []
  | .char c :: rest => (c :: ·) <$> spelled? rest
  | .undecodable :: _ => none
  | .unit high :: .unit low :: rest =>
    if 0xD800 ≤ high ∧ high < 0xDC00 ∧ 0xDC00 ≤ low ∧ low < 0xE000 then
      (Char.ofNat (0x10000 + (high - 0xD800) * 0x400 + (low - 0xDC00)) :: ·) <$> spelled? rest
    else if 0xD800 ≤ high ∧ high < 0xE000 then none
    else (Char.ofNat high :: ·) <$> spelled? (.unit low :: rest)
  | .unit n :: rest =>
    if 0xD800 ≤ n ∧ n < 0xE000 then none else (Char.ofNat n :: ·) <$> spelled? rest

def digits : Source → List Char × Source
  | some c :: rest =>
    if c.isDigit then ((c :: (digits rest).1), (digits rest).2) else ([], some c :: rest)
  | rest => ([], rest)

def whole? (s : Source) : Option (List Char × Source) :=
  match s with
  | some '0' :: rest => some (['0'], rest)
  | _ =>
    match digits s with
    | ([], _) => none
    | (d :: ds, rest) => some (d :: ds, rest)

def fraction? : Source → Option (List Char × Source)
  | some '.' :: rest =>
    match digits rest with
    | ([], _) => none
    | (ds, rest) => some ('.' :: ds, rest)
  | rest => some ([], rest)

def sign : Source → List Char × Source
  | some '+' :: rest => (['+'], rest)
  | some '-' :: rest => (['-'], rest)
  | rest => ([], rest)

def exponent? (s : Source) : Option (List Char × Source) :=
  match s with
  | some c :: rest =>
    if c = 'e' ∨ c = 'E' then
      let (sign, rest) := sign rest
      match digits rest with
      | ([], _) => none
      | (ds, rest) => some (c :: sign ++ ds, rest)
    else some ([], s)
  | rest => some ([], rest)

def unsigned? (s : Source) : Option (List Char × Source) := do
  let (whole, s) ← whole? s
  let (fraction, s) ← fraction? s
  let (exponent, s) ← exponent? s
  return (whole ++ fraction ++ exponent, s)

def number? : Source → Option (List Char × Source)
  | some '-' :: rest => do
    let (lexeme, rest) ← unsigned? rest
    return ('-' :: lexeme, rest)
  | s => unsigned? s

def next? (s : Source) : Option (Token × Source) :=
  match s with
  | some '[' :: rest => some (.openArray, rest)
  | some ']' :: rest => some (.closeArray, rest)
  | some '\x7b' :: rest => some (.openObject, rest)
  | some '\x7d' :: rest => some (.closeObject, rest)
  | some ',' :: rest => some (.comma, rest)
  | some ':' :: rest => some (.colon, rest)
  | some 'n' :: some 'u' :: some 'l' :: some 'l' :: rest => some (.null, rest)
  | some 't' :: some 'r' :: some 'u' :: some 'e' :: rest => some (.bool true, rest)
  | some 'f' :: some 'a' :: some 'l' :: some 's' :: some 'e' :: rest => some (.bool false, rest)
  | some '"' :: rest => do
    let (pieces, rest) ← pieces? rest
    return (.string ((spelled? pieces).map String.ofList), rest)
  | _ => do
    let (lexeme, rest) ← number? s
    return (.number (String.ofList lexeme), rest)

def isSpace : Option Char → Bool
  | some c => c == ' ' || c == '\n' || c == '\t' || c == '\r'
  | none => false

theorem length_pieces? {s rest : Source} {ps : List Piece} (h : pieces? s = some (ps, rest)) :
    rest.length < s.length := by
  fun_induction pieces? s generalizing ps rest with
  | case1 => simp at h
  | case2 => grind
  | case3 => simp only [Option.bind_eq_bind, Option.bind_eq_some_iff] at h; grind
  | case4 => simp only [Option.bind_eq_bind, Option.bind_eq_some_iff] at h; grind
  | case5 => simp at h
  | case6 => simp only [Option.bind_eq_bind, Option.bind_eq_some_iff] at h; grind
  | case7 => simp only [Option.bind_eq_bind, Option.bind_eq_some_iff] at h; grind

theorem length_digits (s : Source) : (digits s).1.length + (digits s).2.length = s.length := by
  fun_induction digits s <;> grind

theorem length_whole? {s rest : Source} {ds : List Char} (h : whole? s = some (ds, rest)) :
    rest.length < s.length := by
  unfold whole? at h
  split at h
  · grind
  · have := length_digits s
    split at h <;> grind

theorem length_fraction? {s rest : Source} {ds : List Char} (h : fraction? s = some (ds, rest)) :
    rest.length ≤ s.length := by
  unfold fraction? at h
  split at h
  · next tail =>
    have := length_digits tail
    split at h <;> grind
  · grind

theorem length_sign (s : Source) : (sign s).2.length ≤ s.length := by
  unfold sign
  split <;> simp

theorem length_exponent? {s rest : Source} {ds : List Char} (h : exponent? s = some (ds, rest)) :
    rest.length ≤ s.length := by
  unfold exponent? at h
  split at h
  · next c tail =>
    have := length_sign tail
    have := length_digits (sign tail).2
    split at h
    · dsimp only at h
      split at h <;> grind
    · grind
  · grind

theorem length_unsigned? {s rest : Source} {ds : List Char} (h : unsigned? s = some (ds, rest)) :
    rest.length < s.length := by
  simp only [unsigned?, Option.bind_eq_bind, Option.bind_eq_some_iff] at h
  obtain ⟨⟨_, s₁⟩, h₁, ⟨_, s₂⟩, h₂, ⟨_, s₃⟩, h₃, h⟩ := h
  have := length_whole? h₁
  have := length_fraction? h₂
  have := length_exponent? h₃
  grind

theorem length_number? {s rest : Source} {ds : List Char} (h : number? s = some (ds, rest)) :
    rest.length < s.length := by
  unfold number? at h
  split at h
  · simp only [Option.bind_eq_bind, Option.bind_eq_some_iff] at h
    obtain ⟨⟨_, s₁⟩, h₁, h⟩ := h
    have := length_unsigned? h₁
    grind
  · exact length_unsigned? h

theorem length_next? {s rest : Source} {t : Token} (h : next? s = some (t, rest)) :
    rest.length < s.length := by
  unfold next? at h
  split at h
  case h_10 tail =>
    simp only [Option.bind_eq_bind, Option.bind_eq_some_iff] at h
    obtain ⟨⟨_, s₁⟩, h₁, h⟩ := h
    have := length_pieces? h₁
    grind
  case h_11 =>
    simp only [Option.bind_eq_bind, Option.bind_eq_some_iff] at h
    obtain ⟨⟨_, s₁⟩, h₁, h⟩ := h
    have := length_number? h₁
    grind
  all_goals grind

def all? (s : Source) : Option (List Token) :=
  match _hs : s.dropWhile isSpace with
  | [] => some []
  | c :: s' =>
    match _h : next? (c :: s') with
    | none => none
    | some (t, rest) => (t :: ·) <$> all? rest
termination_by s.length
decreasing_by
  have := length_next? _h
  have := (s.dropWhile_suffix isSpace).length_le
  grind

end Token

end CreditRoll.Json
