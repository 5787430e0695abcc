import CreditRoll.Github.Error

namespace CreditRoll.Github

/-- Access to the service at a base address, in the name of a token's holder or anonymously. -/
structure Client where
  base : String
  token : Option String
  deriving DecidableEq, Repr

namespace Client

def dropSlashes (address : String) : String :=
  String.ofList (address.toList.reverse.dropWhile (· == '/')).reverse

def isWebBase (address : String) : Bool :=
  "https://".toList.isPrefixOf address.toList || "http://".toList.isPrefixOf address.toList

def isHeaderChar (c : Char) : Bool :=
  (0x20 ≤ c.toNat && c.toNat != 0x7F) || c == '\t'

def make (base : String) (token : Option String) : Except Error Client :=
  let base := dropSlashes base
  if !isWebBase base then .error (.invalidBase base)
  else if token.any (!·.toList.all isHeaderChar) then
    .error (.invalidToken "failed to parse header value")
  else .ok ⟨base, token⟩

def url (c : Client) (path : String) : String :=
  c.base ++ path

end Client

end CreditRoll.Github
