import CreditRoll.Text.Blank

namespace CreditRoll

structure Entry where
  login : String
  contributions : Nat
  url : Option String
  deriving DecidableEq, Repr

structure Profile where
  name : Option String
  url : String
  deriving DecidableEq, Repr

structure Credit where
  login : String
  displayName : String
  url : String
  contributions : Nat
  deriving DecidableEq, Repr

namespace Credit

def nameFor (entry : Entry) (profile : Profile) : String :=
  match profile.name with
  | some name => if name.isAllBlank then entry.login else name
  | none => entry.login

def urlFor (entry : Entry) (profile : Profile) : String :=
  if profile.url.isEmpty then entry.url.getD ("https://github.com/" ++ entry.login)
  else profile.url

def ofProfile (entry : Entry) (profile : Profile) : Credit where
  login := entry.login
  displayName := nameFor entry profile
  url := urlFor entry profile
  contributions := entry.contributions

end Credit

end CreditRoll
