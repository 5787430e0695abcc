namespace CreditRoll.Yaml

/-- A place in a text. All three numbers count characters or lines from zero. -/
structure Mark where
  index : Nat
  line : Nat
  column : Nat
  deriving DecidableEq, Repr, Inhabited

namespace Mark

def start : Mark :=
  ⟨0, 0, 0⟩

def next (m : Mark) : Mark :=
  ⟨m.index + 1, m.line, m.column + 1⟩

def nextLine (m : Mark) (width : Nat) : Mark :=
  ⟨m.index + width, m.line + 1, 0⟩

end Mark

structure Cell where
  char : Char
  mark : Mark
  deriving DecidableEq, Repr

namespace Cell

def isBreak (c : Char) : Bool :=
  c == '\n' || c == '\r' || c == '\x85' || c == '\u2028' || c == '\u2029'

def isSpace (c : Char) : Bool :=
  c == ' ' || c == '\t'

def isGap (c : Char) : Bool :=
  isSpace c || isBreak c

def isAllowed (c : Char) : Bool :=
  let n := c.toNat
  n == 0x09 || n == 0x0A || n == 0x0D || (0x20 ≤ n && n ≤ 0x7E) || n == 0x85 ||
    (0xA0 ≤ n && n ≤ 0xFFFD) || 0x10000 ≤ n

def isWord (c : Char) : Bool :=
  c.isAlphanum || c == '_' || c == '-'

/-- Cuts a text into cells. The line breaks of the common systems become newlines, while the line
and the paragraph separator stay as they are. -/
def ofChars (m : Mark) : List Char → List Cell × Mark
  | [] => ([], m)
  | '\r' :: '\n' :: s =>
    let (cells, last) := ofChars (m.nextLine 2) s
    (⟨'\n', m⟩ :: cells, last)
  | c :: s =>
    if isBreak c then
      let (cells, last) := ofChars (m.nextLine 1) s
      (⟨if c == '\r' || c == '\x85' then '\n' else c, m⟩ :: cells, last)
    else
      let (cells, last) := ofChars m.next s
      (⟨c, m⟩ :: cells, last)

def dropByteOrderMark : List Char → List Char
  | '\uFEFF' :: s => s
  | s => s

def ofText? (s : List Char) : Option (List Cell × Mark) :=
  if s.all isAllowed then some (ofChars .start (dropByteOrderMark s)) else none

def startsGap : List Cell → Bool
  | [] => true
  | c :: _ => isGap c.char

def startsWith (c : Char) : List Cell → Bool
  | [] => false
  | d :: _ => d.char == c

def isRule (c : Char) : List Cell → Bool
  | a :: b :: d :: rest =>
    a.mark.column == 0 && a.char == c && b.char == c && d.char == c && startsGap rest
  | _ => false

def isDocumentRule (s : List Cell) : Bool :=
  isRule '-' s || isRule '.' s

def span (p : Char → Bool) (s : List Cell) : List Char × List Cell :=
  ((s.takeWhile (p ·.char)).map Cell.char, s.dropWhile (p ·.char))

def lineEnd? (s : List Cell) : Option (List Cell) :=
  let s := s.dropWhile (isSpace ·.char)
  let s := if startsWith '#' s then s.dropWhile (!isBreak ·.char) else s
  match s with
  | [] => some []
  | c :: rest => if isBreak c.char then some rest else none

end Cell

end CreditRoll.Yaml
