import CreditRoll.Yaml.Scalar
import CreditRoll.Yaml.Token

namespace CreditRoll.Yaml

open Cell

/-- A place where a key may have begun. When a colon shows that it did, the signs of the key go in
after so many tokens. A key that stands where the block around it needs one is required. -/
structure Candidate where
  required : Bool
  tokens : Nat
  mark : Mark
  deriving DecidableEq, Repr

/-- The state of a scan. The tokens found so far are kept latest first. The columns of the open
blocks, the innermost first, are counted from one, and zero is the column outside of all blocks.
There is a candidate, or none, for the blocks and for each open bracket, the innermost first. -/
structure Scanner where
  rest : List Cell
  last : Mark
  found : List Token
  column : Nat
  outer : List Nat
  keyAllowed : Bool
  candidate : Option Candidate
  suspended : List (Option Candidate)

namespace Scanner

def start (cells : List Cell) (last : Mark) : Scanner :=
  ⟨cells, last, [], 0, [], true, none, []⟩

def inFlow (s : Scanner) : Bool :=
  !s.suspended.isEmpty

def mark (s : Scanner) : Mark :=
  match s.rest with
  | [] => s.last
  | c :: _ => c.mark

def push (sign : Sign) (mark : Mark) (s : Scanner) : Scanner :=
  { s with found := ⟨sign, mark⟩ :: s.found }

def insert (n : Nat) (sign : Sign) (mark : Mark) (s : Scanner) : Scanner :=
  let later := s.found.length - n
  { s with found := s.found.take later ++ ⟨sign, mark⟩ :: s.found.drop later }

/-- Skips spaces, comments and line breaks. Outside of brackets a key may begin on a new line. A tab
is a space except where it could be taken for indentation. -/
def skipFrom (inFlow : Bool) (keyAllowed inComment : Bool) : List Cell → Bool × List Cell
  | [] => (keyAllowed, [])
  | c :: rest =>
    if isBreak c.char then skipFrom inFlow (keyAllowed || !inFlow) false rest
    else if inComment then skipFrom inFlow keyAllowed true rest
    else if c.char == ' ' || (c.char == '\t' && (inFlow || !keyAllowed)) ||
        (c.char == '\uFEFF' && c.mark.index == 0) then
      skipFrom inFlow keyAllowed false rest
    else if c.char == '#' then skipFrom inFlow keyAllowed true rest
    else (keyAllowed, c :: rest)

def skip (s : Scanner) : Scanner :=
  let (keyAllowed, rest) := skipFrom s.inFlow s.keyAllowed false s.rest
  { s with keyAllowed, rest }

/-- A key stands on one line and has at most 1024 characters. -/
def isStale (now : Mark) (k : Candidate) : Bool :=
  k.mark.line < now.line || k.mark.index + 1024 < now.index

def refresh? (now : Mark) : Option Candidate → Option (Option Candidate)
  | none => some none
  | some k =>
    if isStale now k then if k.required then none else some none
    else some (some k)

def dropStale? (s : Scanner) : Option Scanner := do
  return { s with
    candidate := ← refresh? s.mark s.candidate
    suspended := ← s.suspended.mapM (refresh? s.mark) }

def dropCandidate? (s : Scanner) : Option Scanner :=
  if s.candidate.any (·.required) then none else some { s with candidate := none }

def saveCandidate? (s : Scanner) : Option Scanner :=
  if s.keyAllowed then do
    let required := !s.inFlow && s.column == s.mark.column + 1
    let s ← s.dropCandidate?
    return { s with candidate := some ⟨required, s.found.length, s.mark⟩ }
  else some s

/-- Opens a block at a column unless one is open there already. Its start goes in after the first
`n` tokens. Brackets hold no blocks. -/
def openBlock (sign : Sign) (mark : Mark) (n : Nat) (s : Scanner) : Scanner :=
  if !s.inFlow && s.column ≤ mark.column then
    { s with column := mark.column + 1, outer := s.column :: s.outer }.insert n sign mark
  else s

def closeBlocks (column : Nat) : List Nat → Scanner → Scanner
  | [], s => s
  | c :: outer, s =>
    if column < s.column then
      closeBlocks column outer ({ s with column := c, outer }.push .blockEnd s.mark)
    else s

def dedent (column : Nat) (s : Scanner) : Scanner :=
  if s.inFlow then s else closeBlocks column s.outer s

def take (n : Nat) (sign : Sign) (s : Scanner) : Scanner :=
  { s.push sign s.mark with rest := s.rest.drop n }

def documentRule? (sign : Sign) (s : Scanner) : Option Scanner := do
  let s ← (s.dedent 0).dropCandidate?
  return { s with keyAllowed := false }.take 3 sign

def directive? (s : Scanner) : Option Scanner := do
  let s ← (s.dedent 0).dropCandidate?
  let (sign, rest) ← Token.directive? (s.rest.drop 1)
  return { s.push sign s.mark with keyAllowed := false, rest }

def openBracket? (sign : Sign) (s : Scanner) : Option Scanner := do
  let s ← s.saveCandidate?
  return { s with
    keyAllowed := true
    candidate := none
    suspended := s.candidate :: s.suspended }.take 1 sign

def closeBracket? (sign : Sign) (s : Scanner) : Option Scanner := do
  let s ← s.dropCandidate?
  let s := match s.suspended with
    | [] => s
    | candidate :: suspended => { s with candidate, suspended }
  return { s with keyAllowed := false }.take 1 sign

def flowEntry? (s : Scanner) : Option Scanner := do
  return { (← s.dropCandidate?) with keyAllowed := true }.take 1 .flowEntry

def blockEntry? (s : Scanner) : Option Scanner := do
  guard (s.inFlow || s.keyAllowed)
  let s ← (s.openBlock .blockSequenceStart s.mark s.found.length).dropCandidate?
  return { s with keyAllowed := true }.take 1 .blockEntry

def key? (s : Scanner) : Option Scanner := do
  guard (s.inFlow || s.keyAllowed)
  let s ← (s.openBlock .blockMappingStart s.mark s.found.length).dropCandidate?
  return { s with keyAllowed := !s.inFlow }.take 1 .key

def value? (s : Scanner) : Option Scanner :=
  match s.candidate with
  | some k =>
    let s := (s.insert k.tokens .key k.mark).openBlock .blockMappingStart k.mark k.tokens
    some ({ s with candidate := none, keyAllowed := false }.take 1 .value)
  | none => do
    guard (s.inFlow || s.keyAllowed)
    let s := s.openBlock .blockMappingStart s.mark s.found.length
    return { s with keyAllowed := !s.inFlow }.take 1 .value

def property? (read? : List Cell → Option (Sign × List Cell)) (s : Scanner) : Option Scanner := do
  let s ← s.saveCandidate?
  let (sign, rest) ← read? s.rest
  return { s.push sign s.mark with keyAllowed := false, rest }

def anchor? (s : Scanner) : Option Scanner :=
  s.property? fun cells ↦
    (Token.name? (cells.drop 1)).map fun r ↦ (.anchor r.1, r.2)

def alias? (s : Scanner) : Option Scanner :=
  s.property? fun cells ↦
    (Token.name? (cells.drop 1)).map fun r ↦ (.alias r.1, r.2)

def quoted? (read? : List Cell → Option (List Char × List Cell)) (s : Scanner) : Option Scanner :=
  s.property? fun cells ↦
    (read? (cells.drop 1)).map fun r ↦ (.scalar false (String.ofList r.1), r.2)

def block? (literal : Bool) (s : Scanner) : Option Scanner := do
  let s ← s.dropCandidate?
  let (text, rest) ← Scalar.ofBlock? literal s.column (s.rest.drop 1)
  return { s.push (.scalar false (String.ofList text)) s.mark with keyAllowed := true, rest }

def plain? (s : Scanner) : Option Scanner := do
  let s ← s.saveCandidate?
  let p ← Scalar.plain? s.inFlow s.column .empty s.rest
  return { s.push (.scalar true (String.ofList p.text)) s.mark with
    keyAllowed := p.folded
    rest := p.rest }

def indicators : List Char :=
  ['-', '?', ':', ',', '[', ']', '\x7b', '\x7d', '#', '&', '*', '!', '|', '>', '\'', '"', '%', '@',
    '\x60']

def startsPlain (inFlow : Bool) (c : Char) (rest : List Cell) : Bool :=
  (!isGap c && !indicators.contains c) ||
    (c == '-' && !startsGap rest) ||
    (!inFlow && (c == '?' || c == ':') && !startsGap rest)

def token? (c : Cell) (rest : List Cell) (s : Scanner) : Option Scanner :=
  let sign := c.char
  if c.mark.column == 0 && sign == '%' then s.directive?
  else if isRule '-' s.rest then s.documentRule? .documentStart
  else if isRule '.' s.rest then s.documentRule? .documentEnd
  else if sign == '[' then s.openBracket? .flowSequenceStart
  else if sign == '\x7b' then s.openBracket? .flowMappingStart
  else if sign == ']' then s.closeBracket? .flowSequenceEnd
  else if sign == '\x7d' then s.closeBracket? .flowMappingEnd
  else if sign == ',' then s.flowEntry?
  else if sign == '-' && startsGap rest then s.blockEntry?
  else if sign == '?' && (s.inFlow || startsGap rest) then s.key?
  else if sign == ':' && (s.inFlow || startsGap rest) then s.value?
  else if sign == '*' then s.alias?
  else if sign == '&' then s.anchor?
  else if sign == '!' then s.property? (Token.tag? s.inFlow)
  else if sign == '|' && !s.inFlow then s.block? true
  else if sign == '>' && !s.inFlow then s.block? false
  else if sign == '\'' then s.quoted? (Scalar.single? .empty)
  else if sign == '"' then s.quoted? (Scalar.double? .text .empty)
  else if startsPlain s.inFlow sign rest then s.plain?
  else none

def finish? (s : Scanner) : Option (List Token × Mark) := do
  let last := if s.last.column == 0 then s.last else s.last.nextLine 0
  let s ← ({ s with last }.dedent 0).dropCandidate?
  return (s.found.reverse, last)

/-- Reads tokens until nothing is left. Every token takes at least one cell, so that `fuel` more
tokens than there are cells are never needed. -/
def run? : (fuel : Nat) → Scanner → Option (List Token × Mark)
  | 0, _ => none
  | fuel + 1, s => do
    let s ← s.skip.dropStale?
    let s := s.dedent (s.mark.column + 1)
    match s.rest with
    | [] => s.finish?
    | c :: rest => do run? fuel (← s.token? c rest)

end Scanner

def Token.ofText? (s : List Char) : Option (List Token × Mark) := do
  let (cells, last) ← Cell.ofText? s
  Scanner.run? (cells.length + 1) (.start cells last)

end CreditRoll.Yaml
