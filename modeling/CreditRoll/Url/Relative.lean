import CreditRoll.Url.Credentials

namespace CreditRoll.Url.Address

def isSlash (c : Char) : Bool := c == '/' || c == '\\'

def folder (a : Address) : List Char :=
  let path := a.path.takeWhile fun c ↦ c != '?' && c != '#'
  (path.reverse.dropWhile (!isSlash ·)).reverse

def below (base : Address) (s : List Char) : Address :=
  match s with
  | [] => { base with path := base.path.takeWhile (· != '#') }
  | '#' :: _ => { base with path := base.path.takeWhile (· != '#') ++ s }
  | '?' :: _ => { base with path := base.path.takeWhile (fun c ↦ c != '?' && c != '#') ++ s }
  | c :: _ =>
    if isSlash c then { base with path := s }
    else { base with path := (if base.folder.isEmpty then ['/'] else base.folder) ++ s }

variable [Idna]

/-- What a reference without a scheme means at an address, which may name another host. -/
def relative? (base : Address) (s : List Char) : Option Address :=
  match s with
  | a :: b :: _ =>
    if isSlash a && isSlash b then parse? (base.scheme ++ ":" ++ String.ofList s)
    else some (below base s)
  | _ => some (below base s)

def resolve? (address reference : String) : Option Address := do
  let base ← parse? address
  let s := clean reference.toList
  match scheme? s with
  | none => relative? base s
  | some (scheme, rest) =>
    if scheme == base.scheme && !"//".toList.isPrefixOf rest then relative? base rest
    else parse? reference

end CreditRoll.Url.Address
