import CreditRoll.Text.Numeral
import CreditRoll.Text.Utf8
import CreditRoll.Url.Host
import CreditRoll.Yaml.Cell

namespace CreditRoll.Yaml

inductive Sign where
  | version (major minor : Nat)
  | tagHandle (handle base : String)
  | documentStart
  | documentEnd
  | blockSequenceStart
  | blockMappingStart
  | blockEnd
  | flowSequenceStart
  | flowSequenceEnd
  | flowMappingStart
  | flowMappingEnd
  | blockEntry
  | flowEntry
  | key
  | value
  | alias (name : String)
  | anchor (name : String)
  | tag (handle suffix : String)
  | scalar (plain : Bool) (text : String)
  deriving DecidableEq, Repr

structure Token where
  sign : Sign
  mark : Mark
  deriving DecidableEq, Repr

namespace Token

open Cell

def name? (s : List Cell) : Option (String × List Cell) :=
  let (name, rest) := Cell.span isWord s
  let ends := match rest with
    | [] => true
    | c :: _ => isGap c.char ||
      ['?', ':', ',', ']', '\x7d', '%', '@', '\x60'].contains c.char
  if !name.isEmpty && ends then some (String.ofList name, rest) else none

def isUriChar (verbatim : Bool) (c : Char) : Bool :=
  isWord c ||
    [';', '/', '?', ':', '@', '&', '=', '+', '$', '.', '%', '!', '~', '*', '\'', '(', ')'].contains
      c ||
    (verbatim && [',', '[', ']'].contains c)

def uri? (verbatim : Bool) (s : List Cell) : Option (String × List Cell) := do
  let (raw, rest) := Cell.span (isUriChar verbatim) s
  guard (escapesAreWhole raw)
  return (String.ofList (← Text.Utf8.decode? (Url.Host.unescape raw)), rest)
where
  escapesAreWhole : List Char → Bool
    | '%' :: a :: b :: rest =>
      (Json.Token.hexValue? a).isSome && (Json.Token.hexValue? b).isSome && escapesAreWhole rest
    | '%' :: _ => false
    | _ :: rest => escapesAreWhole rest
    | [] => true

def handle? (s : List Cell) : Option (String × List Cell) :=
  match s with
  | c :: rest =>
    if c.char != '!' then none
    else
      let (name, rest) := Cell.span isWord rest
      match rest with
      | d :: rest' =>
        if d.char == '!' then some (String.ofList ('!' :: name ++ ['!']), rest')
        else some (String.ofList ('!' :: name), rest)
      | [] => some (String.ofList ('!' :: name), [])
  | [] => none

def tag? (inFlow : Bool) (s : List Cell) : Option (Sign × List Cell) := do
  let (tag, rest) ←
    match s with
    | a :: b :: rest =>
      if b.char == '<' then do
        let (address, rest) ← uri? true rest
        guard (!address.isEmpty)
        match rest with
        | c :: rest => if c.char == '>' then some (Sign.tag "" address, rest) else none
        | [] => none
      else short? (a :: b :: rest)
    | _ => short? s
  guard (startsGap rest || (inFlow && startsWith ',' rest))
  return (tag, rest)
where
  short? (s : List Cell) : Option (Sign × List Cell) := do
    let (handle, rest) ← handle? s
    let (suffix, rest) ← uri? false rest
    if handle.length > 1 && handle.toList.getLast? == some '!' then do
      guard (!suffix.isEmpty)
      return (.tag handle suffix, rest)
    else
      let suffix := String.ofList (handle.toList.drop 1) ++ suffix
      return (if suffix.isEmpty then .tag "" "!" else .tag "!" suffix, rest)

def version? (s : List Cell) : Option (Sign × List Cell) := do
  let (major, rest) := Cell.span Char.isDigit s
  guard (startsWith '.' rest && major.length ≤ 9)
  let (minor, rest) := Cell.span Char.isDigit (rest.drop 1)
  guard (minor.length ≤ 9)
  return (.version (← Text.natural? major) (← Text.natural? minor), rest)

def tagHandle? (s : List Cell) : Option (Sign × List Cell) := do
  let (handle, rest) ← handle? s
  guard (handle == "!" || (handle.length > 1 && handle.toList.getLast? == some '!'))
  match rest with
  | c :: _ =>
    guard (isSpace c.char)
    let (address, rest) ← uri? true (rest.dropWhile (isSpace ·.char))
    guard (!address.isEmpty && startsGap rest)
    return (.tagHandle handle address, rest)
  | [] => none

def directive? (s : List Cell) : Option (Sign × List Cell) := do
  let (name, rest) := Cell.span isWord s
  guard (startsGap rest)
  let content := rest.dropWhile (isSpace ·.char)
  let (sign, rest) ←
    if name == "YAML".toList then version? content
    else if name == "TAG".toList then tagHandle? content
    else none
  return (sign, ← lineEnd? rest)

end Token

end CreditRoll.Yaml
