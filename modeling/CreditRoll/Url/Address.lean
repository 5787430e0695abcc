import CreditRoll.Url.Host
import CreditRoll.Text.Blank
import CreditRoll.Url.Segment

namespace CreditRoll.Url

/-- An absolute address: its scheme in small letters, its host with what stands before and after it,
if it has a host, and the rest. -/
structure Address where
  scheme : String
  user : List Char
  host : Option (List Char)
  portNumber : Option Nat
  path : List Char
  deriving DecidableEq, Repr

namespace Address

/-- The schemes whose addresses always have a host and take a backslash for a slash. -/
def hostSchemes : List String :=
  ["http", "https", "ftp", "ws", "wss"]

def clean (s : List Char) : List Char :=
  (Text.strip (·.toNat ≤ 0x20) s).filter fun c ↦ c != '\t' && c != '\n' && c != '\r'

def isSchemeChar (c : Char) : Bool :=
  c.isAlphanum || c == '+' || c == '-' || c == '.'

def scheme? (s : List Char) : Option (String × List Char) :=
  let name := s.takeWhile isSchemeChar
  match s.dropWhile isSchemeChar with
  | ':' :: rest =>
    if name.head?.any Char.isAlpha then some (String.ofList (name.map Char.toLower), rest) else none
  | _ => none

def splitUser (authority : List Char) : List Char × List Char :=
  let back := authority.reverse
  match back.dropWhile (· != '@') with
  | [] => ([], authority)
  | _ :: user => (user.reverse, (back.takeWhile (· != '@')).reverse)

def splitHost (s : List Char) : List Char × List Char :=
  match s with
  | '[' :: _ =>
    match s.dropWhile (· != ']') with
    | [] => (s, [])
    | close :: rest => (s.takeWhile (· != ']') ++ [close], rest)
  | _ => (s.takeWhile (· != ':'), s.dropWhile (· != ':'))

def portNumber? : List Char → Option (Option Nat)
  | [] => some none
  | [':'] => some none
  | ':' :: ds => do
    let n ← Text.natural? ds
    guard (n < Nat.pow 2 16)
    return some n
  | _ => none

def usualPortNumber? (scheme : String) : Option Nat :=
  if scheme == "http" || scheme == "ws" then some 80
  else if scheme == "https" || scheme == "wss" then some 443
  else if scheme == "ftp" then some 21
  else none

section Reading

variable [Idna]

def host? (known : Bool) (s : List Char) : Option (List Char) :=
  if known || s.head? == some '[' then Host.normal? s
  else if s.any Host.isForbidden then none
  else some s

def ofParts? (scheme : String) (authority path : List Char) : Option Address := do
  let (user, rest) := splitUser authority
  let (host, rest) := splitHost rest
  let number ← portNumber? rest
  let host ← host? (hostSchemes.contains scheme) host
  return {
    scheme
    user
    host := some host
    portNumber := if number == usualPortNumber? scheme then none else number
    path }

def endsAuthority (known : Bool) (c : Char) : Bool :=
  c == '/' || c == '?' || c == '#' || (known && c == '\\')

def afterSlashes? (scheme : String) (s : List Char) : Option Address :=
  let ends := endsAuthority (hostSchemes.contains scheme)
  ofParts? scheme (s.takeWhile (!ends ·)) (s.dropWhile (!ends ·))

def parse? (s : String) : Option Address := do
  let (scheme, rest) ← scheme? (clean s.toList)
  if hostSchemes.contains scheme then
    afterSlashes? scheme (rest.dropWhile fun c ↦ c == '/' || c == '\\')
  else match rest with
    | '/' :: '/' :: rest =>
      if scheme == "file" && (rest.isEmpty || rest.head? == some '/') then
        return ⟨scheme, [], none, none, ['/', '/'] ++ rest⟩
      else afterSlashes? scheme rest
    | _ => return ⟨scheme, [], none, none, rest⟩

end Reading

def isWeb (a : Address) : Bool :=
  a.host.isSome && (a.scheme == "http" || a.scheme == "https")

def isHere (step : List Char) : Bool :=
  [".", "%2e"].any (·.toList == step.map Char.toLower)

def isUp (step : List Char) : Bool :=
  ["..", ".%2e", "%2e.", "%2e%2e"].any (·.toList == step.map Char.toLower)

/-- The steps of a path without those that stay or go up. `done` are those before, the latest first.
A path that ends in such a step ends in a slash. -/
def settle (done : List (List Char)) : List (List Char) → List (List Char)
  | [] => done.reverse
  | step :: rest =>
    let done := if isUp step then done.tail else if isHere step then done else step :: done
    if rest.isEmpty && (isUp step || isHere step) then ([] :: done).reverse
    else settle done rest

inductive Part where
  | bare
  | path
  | query
  | fragment
  deriving DecidableEq, Repr

def Part.escaped (known : Bool) : Part → List Char
  | bare => []
  | path => [' ', '"', '<', '>', '\x60', '\x7b', '\x7d']
  | query => [' ', '"', '<', '>'] ++ if known then ['\''] else []
  | fragment => [' ', '"', '<', '>', '\x60']

def escape (known : Bool) (part : Part) (s : List Char) : List Char :=
  s.flatMap fun c ↦
    if 0x20 ≤ c.toNat && c.toNat ≤ 0x7E && !(part.escaped known).contains c then [c]
    else (String.utf8EncodeChar c).flatMap fun b ↦
      ['%', Segment.hexDigit (b.toNat / 16), Segment.hexDigit (b.toNat % 16)]

def pathText (known : Bool) (s : List Char) : List Char :=
  let s := if known then s.map fun c ↦ if c == '\\' then '/' else c else s
  if s.isEmpty && !known then []
  else
    let steps := match s with
      | '/' :: rest => rest.splitOn '/'
      | _ => s.splitOn '/'
    (settle [] steps).flatMap fun step ↦ '/' :: escape known .path step

def text (a : Address) : String :=
  let known := hostSchemes.contains a.scheme
  let authority := match a.host with
    | none => []
    | some host =>
      let user := if a.user.isEmpty then [] else a.user ++ ['@']
      let number := match a.portNumber with
        | none => []
        | some n => ':' :: (toString n).toList
      ['/', '/'] ++ user ++ host ++ number
  let path := a.path.takeWhile fun c ↦ c != '?' && c != '#'
  let rest := a.path.drop path.length
  let query := rest.takeWhile (· != '#')
  let fragment := rest.drop query.length
  let path := if a.host.isSome then pathText known path else escape known .bare path
  a.scheme ++ ":" ++ String.ofList
    (authority ++ path ++ escape known .query query ++ escape known .fragment fragment)

def longest : Nat := 65534

def isUriChar (c : Char) : Bool :=
  c.isAlphanum || "!$&'()*+,-.:;=[]_~".toList.contains c

def isUri (a : Address) : Bool :=
  (a.host.getD []).all isUriChar && a.text.toList.length ≤ longest

def server (a : Address) : Option (List Char) × Option Nat :=
  (a.host, a.portNumber <|> usualPortNumber? a.scheme)

end CreditRoll.Url.Address
