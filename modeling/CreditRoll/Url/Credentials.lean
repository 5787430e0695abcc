import CreditRoll.Text.Base64
import CreditRoll.Url.Address

namespace CreditRoll.Url

structure Credentials where
  name : String
  password : String
  deriving DecidableEq, Repr

def Credentials.basic (c : Credentials) : String :=
  "Basic " ++ String.ofList
    (Text.Base64.encode (Text.Utf8.encode (c.name ++ ":" ++ c.password).toList))

namespace Address

def unescaped? (s : List Char) : Option String :=
  (Text.Utf8.decode? (Host.unescape s)).map String.ofList

def credentials? (a : Address) : Option Credentials := do
  let name ← unescaped? (a.user.takeWhile (· != ':'))
  let password := (unescaped? (a.user.dropWhile (· != ':')).tail).getD ""
  guard (!name.isEmpty || !password.isEmpty)
  return ⟨name, password⟩

/-- The address as it is asked for: its credentials are sent in a header field instead. -/
def withoutCredentials (a : Address) : Address :=
  if a.credentials?.isSome then { a with user := [] } else a

end Address

end CreditRoll.Url
