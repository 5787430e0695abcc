import CreditRoll.Json.Token
import CreditRoll.Yaml.Cell

namespace CreditRoll.Yaml

open Cell

/-- The spaces and line breaks between two words of a scalar: the spaces of a line, or the first
line break, if one was read, and the further ones. -/
inductive Gap where
  | spaces (s : List Char)
  | breaks (first : List Char) (more : List Char)
  deriving DecidableEq, Repr

namespace Gap

def empty : Gap :=
  .spaces []

def isFolded : Gap → Bool
  | spaces _ => false
  | breaks _ _ => true

def add (c : Char) : Gap → Gap
  | spaces s => if isBreak c then .breaks [c] [] else .spaces (s ++ [c])
  | breaks first more => if isBreak c then .breaks first (more ++ [c]) else .breaks first more

/-- The text that a gap stands for. One newline alone folds into a space, and with others after it
it is dropped. -/
def text : Gap → List Char
  | spaces s => s
  | breaks ['\n'] [] => [' ']
  | breaks ['\n'] more => more
  | breaks first more => first ++ more

end Gap

namespace Scalar

def single? (gap : Gap) : List Cell → Option (List Char × List Cell)
  | [] => none
  | c :: rest =>
    if isGap c.char then single? (gap.add c.char) rest
    else if isDocumentRule (c :: rest) then none
    else if c.char == '\'' then
      match rest with
      | d :: rest' =>
        if d.char == '\'' then
          (single? .empty rest').map fun r ↦ (gap.text ++ '\'' :: r.1, r.2)
        else some (gap.text, rest)
      | [] => some (gap.text, [])
    else (single? .empty rest).map fun r ↦ (gap.text ++ c.char :: r.1, r.2)

inductive Mode where
  | text
  | escape
  | digits (missing : Nat) (value : Nat)
  deriving DecidableEq, Repr

def escaped? (c : Char) : Option Char :=
  match c with
  | '0' => some '\x00'
  | 'a' => some '\x07'
  | 'b' => some '\x08'
  | 't' | '\t' => some '\t'
  | 'n' => some '\n'
  | 'v' => some '\x0B'
  | 'f' => some '\x0C'
  | 'r' => some '\r'
  | 'e' => some '\x1B'
  | ' ' => some ' '
  | '"' => some '"'
  | '/' => some '/'
  | '\\' => some '\\'
  | 'N' => some '\x85'
  | '_' => some '\xA0'
  | 'L' => some '\u2028'
  | 'P' => some '\u2029'
  | _ => none

def digitCount? (c : Char) : Option Nat :=
  match c with
  | 'x' => some 2
  | 'u' => some 4
  | 'U' => some 8
  | _ => none

def char? (n : Nat) : Option Char :=
  if n.isValidChar then some (Char.ofNat n) else none

def double? (mode : Mode) (gap : Gap) : List Cell → Option (List Char × List Cell)
  | [] => none
  | c :: rest =>
    match mode with
    | .text =>
      if isGap c.char then double? .text (gap.add c.char) rest
      else if isDocumentRule (c :: rest) then none
      else if c.char == '"' then some (gap.text, rest)
      else if c.char == '\\' then
        (double? .escape .empty rest).map fun r ↦ (gap.text ++ r.1, r.2)
      else (double? .text .empty rest).map fun r ↦ (gap.text ++ c.char :: r.1, r.2)
    | .escape =>
      if isBreak c.char then double? .text (.breaks [] []) rest
      else
        match escaped? c.char, digitCount? c.char with
        | some d, _ => (double? .text .empty rest).map fun r ↦ (d :: r.1, r.2)
        | none, some n => double? (.digits n 0) .empty rest
        | none, none => none
    | .digits missing value =>
      match Json.Token.hexValue? c.char with
      | none => none
      | some n =>
        if missing ≤ 1 then do
          let d ← char? (16 * value + n)
          (double? .text .empty rest).map fun r ↦ (d :: r.1, r.2)
        else double? (.digits (missing - 1) (16 * value + n)) .empty rest

def isFlowSign (c : Char) : Bool :=
  c == ',' || c == '[' || c == ']' || c == '\x7b' || c == '\x7d'

structure Plain where
  text : List Char
  rest : List Cell
  folded : Bool

/-- The text of a plain scalar. Its lines are indented to `indent` at least, outside of brackets. A
colon before a gap, a comment and a sign of the brackets around it end it. -/
def plain? (inFlow : Bool) (indent : Nat) (gap : Gap) : List Cell → Option Plain
  | [] => some ⟨[], [], gap.isFolded⟩
  | c :: rest =>
    let done := some ⟨[], c :: rest, gap.isFolded⟩
    if isGap c.char then
      if gap.isFolded && c.char == '\t' && c.mark.column < indent then none
      else plain? inFlow indent (gap.add c.char) rest
    else if gap != .empty && (c.char == '#' || (!inFlow && c.mark.column < indent)) then done
    else if isDocumentRule (c :: rest) then done
    else if c.char == ':' && inFlow &&
        (match rest with | d :: _ => isFlowSign d.char || d.char == '?' | [] => false) then none
    else if (c.char == ':' && startsGap rest) || (inFlow && isFlowSign c.char) then done
    else
      (plain? inFlow indent .empty rest).map fun p ↦ { p with text := gap.text ++ c.char :: p.text }

inductive Chomp where
  | strip
  | clip
  | keep
  deriving DecidableEq, Repr

/-- A block of text as its first line announces it. The number of columns that its lines are
indented by is zero while it is not known. -/
structure Block where
  literal : Bool
  chomp : Chomp
  indent : Nat

/-- A position inside a block of text: in the margin before a line, with the break of the line
before it and the breaks of empty lines, or in a line. `spaced` says that the last line began with a
space. -/
inductive Place where
  | margin (first more : List Char) (spaced : Bool) (widest : Nat)
  | line (spaced : Bool)

def Block.finish (b : Block) (first more : List Char) : List Char :=
  (if b.chomp = .strip then [] else first) ++ if b.chomp = .keep then more else []

def Block.joint (b : Block) (first more : List Char) (spaced : Bool) (c : Char) : List Char :=
  if !b.literal && first == ['\n'] && !spaced && !isSpace c then
    if more.isEmpty then [' '] else more
  else first ++ more

/-- The text of a block whose lines are indented further than `outer` columns allow. The first line
with text sets an indentation that is not known. -/
def block? (b : Block) (outer : Nat) (p : Place) : List Cell → Option (List Char × List Cell)
  | [] =>
    match p with
    | .margin first more _ _ => some (b.finish first more, [])
    | .line _ => some ([], [])
  | c :: rest =>
    match p with
    | .line spaced =>
      if isBreak c.char then block? b outer (.margin [c.char] [] spaced 0) rest
      else (block? b outer (.line spaced) rest).map fun r ↦ (c.char :: r.1, r.2)
    | .margin first more spaced widest =>
      let widest := max widest c.mark.column
      if isSpace c.char && (b.indent == 0 || c.mark.column < b.indent) then
        if c.char == '\t' then none else block? b outer (.margin first more spaced widest) rest
      else if isBreak c.char then
        block? b outer (.margin first (more ++ [c.char]) spaced widest) rest
      else
        let indent := if b.indent == 0 then max (max widest outer) 1 else b.indent
        if c.mark.column == indent then
          (block? { b with indent } outer (.line (isSpace c.char)) rest).map fun r ↦
            (b.joint first more spaced c.char ++ c.char :: r.1, r.2)
        else some (b.finish first more, c :: rest)

/-- The indicators after the sign of a block, in either order: what becomes of the last line breaks,
and how many columns more than `outer` its lines are indented by. -/
def header (literal : Bool) (outer : Nat) (s : List Cell) : Option (Block × List Cell) :=
  let chomp? := fun c : Char ↦
    if c == '+' then some Chomp.keep else if c == '-' then some Chomp.strip else none
  let digit? := fun c : Char ↦ if c.isDigit then some (c.toNat - '0'.toNat) else none
  let block := fun (chomp : Chomp) (n : Nat) (rest : List Cell) ↦
    if n == 0 then none else some (⟨literal, chomp, (outer - 1) + n⟩, rest)
  match s with
  | [] => some (⟨literal, .clip, 0⟩, [])
  | c :: rest =>
    match chomp? c.char, digit? c.char with
    | some chomp, _ =>
      match rest with
      | [] => some (⟨literal, chomp, 0⟩, [])
      | d :: rest' =>
        match digit? d.char with
        | some n => block chomp n rest'
        | none => some (⟨literal, chomp, 0⟩, rest)
    | none, some n =>
      match rest with
      | [] => block .clip n []
      | d :: rest' =>
        match chomp? d.char with
        | some chomp => block chomp n rest'
        | none => block .clip n rest
    | none, none => some (⟨literal, .clip, 0⟩, s)

def ofBlock? (literal : Bool) (outer : Nat) (s : List Cell) :
    Option (List Char × List Cell) := do
  let (b, s) ← header literal outer s
  block? b outer (.margin [] [] false 0) (← lineEnd? s)

end Scalar

end CreditRoll.Yaml
