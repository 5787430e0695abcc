import CreditRoll.Json.Token
import CreditRoll.Text.Numeral
import CreditRoll.Text.Utf8

namespace CreditRoll.Url.Host

open Json.Token (hexValue?)

def unescape : List Char → List UInt8
  | '%' :: a :: b :: rest =>
    match hexValue? a, hexValue? b with
    | some m, some n => UInt8.ofNat (16 * m + n) :: unescape rest
    | _, _ => Text.Utf8.encode ['%'] ++ unescape (a :: b :: rest)
  | c :: rest => String.utf8EncodeChar c ++ unescape rest
  | [] => []

def isForbidden (c : Char) : Bool :=
  c.toNat ≤ 0x20 || c.toNat == 0x7F || c.toNat == 0xFFFD ||
    ['%', '#', '/', ':', '<', '>', '?', '@', '[', '\\', ']', '^', '|'].contains c

def hexNatural? (s : List Char) : Option Nat := do
  return (← s.mapM hexValue?).foldl (16 * · + ·) 0

def dottedNumber? : List Char → Option Nat
  | [] => none
  | '0' :: 'x' :: ds => hexNatural? ds
  | ['0'] => some 0
  | '0' :: ds =>
    if ds.all fun c ↦ c.isDigit && c < '8' then
      some (ds.foldl (fun n c ↦ 8 * n + (c.toNat - '0'.toNat)) 0)
    else none
  | ds => Text.natural? ds

def labels (s : List Char) : List (List Char) :=
  let ls := s.splitOn '.'
  if ls.length > 1 && ls.getLast? == some [] then ls.dropLast else ls

/-- A name whose last label is a number has to be a dotted address. -/
def endsInNumber (s : List Char) : Bool :=
  match (labels s).getLast? with
  | some last =>
    (!last.isEmpty && last.all Char.isDigit) ||
      match last with
      | '0' :: 'x' :: ds => (hexNatural? ds).isSome
      | _ => false
  | none => false

/-- At most four numbers, all but the last of them a byte; the last one fills the bytes left. -/
def dotted? (s : List Char) : Option Nat := do
  let ns ← (labels s).mapM dottedNumber?
  let last ← ns.getLast?
  guard (ns.length ≤ 4 && ns.dropLast.all (· < 256) && last < Nat.pow 256 (5 - ns.length))
  return ns.dropLast.foldr (fun n rest ↦ n * Nat.pow 256 3 + rest / 256) 0 + last

def writeDotted (n : Nat) : List Char :=
  ['.'].intercalate ([3, 2, 1, 0].map fun i ↦ (toString (n / Nat.pow 256 i % 256)).toList)

def quad? (s : List Char) : Option (List Nat) := do
  let parts := s.splitOn '.'
  guard (parts.all fun p ↦ p.length ≤ 3 && (p.length == 1 || p.head? != some '0'))
  match ← parts.mapM Text.natural? with
  | [a, b, c, d] =>
    guard ([a, b, c, d].all (· < 256))
    return [256 * a + b, 256 * c + d]
  | _ => none

def group? (s : List Char) : Option Nat := do
  guard (1 ≤ s.length && s.length ≤ 4)
  hexNatural? s

def colonGroups? (s : List Char) : Option (List Nat) :=
  if s.isEmpty then some []
  else
    let parts := s.splitOn ':'
    match parts.mapM group? with
    | some gs => some gs
    | none => do return (← parts.dropLast.mapM group?) ++ (← quad? (parts.getLast?.getD []))

def cutAtGap? : List Char → Option (List Char × List Char)
  | ':' :: ':' :: rest => some ([], rest)
  | c :: rest => (cutAtGap? rest).map fun p ↦ (c :: p.1, p.2)
  | [] => none

def groups? (s : List Char) : Option (List Nat) := do
  match cutAtGap? s with
  | none =>
    let gs ← colonGroups? s
    guard (gs.length == 8)
    return gs
  | some (front, back) =>
    guard (!front.contains '.')
    let before ← colonGroups? front
    let after ← colonGroups? back
    guard (before.length + after.length < 8)
    return before ++ List.replicate (8 - (before.length + after.length)) 0 ++ after

def writeGroups (gs : List Nat) : List Char :=
  [':'].intercalate (gs.map (Nat.toDigits 16))

def longestGap (gs : List Nat) : Nat × Nat :=
  (List.range gs.length).foldl (fun best i ↦
    let n := ((gs.drop i).takeWhile (· == 0)).length
    if best.2 < n then (i, n) else best) (0, 0)

def writeBracketed (gs : List Nat) : List Char :=
  let (i, n) := longestGap gs
  let inner := if n < 2 then writeGroups gs
    else writeGroups (gs.take i) ++ [':', ':'] ++ writeGroups (gs.drop (i + n))
  '[' :: inner ++ [']']

end CreditRoll.Url.Host

namespace CreditRoll.Url

/-- How names of hosts are written in ASCII that have other characters, or a label that encodes some
of these. What comes of them is a matter of tables that change from year to year. -/
class Idna where
  ascii? : List Char → Option (List Char)

namespace Host

variable [Idna]

def isPlain (name : List Char) : Bool :=
  name.all (·.toNat < 0x80) && !(labels name).any (['x', 'n', '-', '-'].isPrefixOf ·)

def ascii? (name : List Char) : Option (List Char) :=
  let small := name.map Char.toLower
  if isPlain small then some small else Idna.ascii? name

def normal? (s : List Char) : Option (List Char) :=
  match s with
  | '[' :: rest =>
    if rest.getLast? == some ']' then (groups? rest.dropLast).map writeBracketed else none
  | _ => do
    let name ← ascii? (Text.Utf8.decodeLossy (unescape s))
    guard (!name.isEmpty && !name.any isForbidden)
    if endsInNumber name then (dotted? name).map writeDotted else some name

end Host

end CreditRoll.Url
