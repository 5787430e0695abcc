import CreditRoll.Text.Blank

namespace CreditRoll

namespace Repository

def isPartChar (c : Char) : Bool :=
  c.isAlphanum || c == '-' || c == '_' || c == '.'

/-- Dots alone would be a step up or down the path of a request. -/
def isPart (s : List Char) : Bool :=
  s.all isPartChar && s.any (· != '.')

end Repository

structure Repository where
  owner : String
  name : String
  owner_valid : Repository.isPart owner.toList = true
  name_valid : Repository.isPart name.toList = true
  deriving DecidableEq

namespace Repository

def ofParts? (owner name : List Char) : Option Repository :=
  if h : isPart owner = true ∧ isPart name = true then
    some {
      owner := String.ofList owner
      name := String.ofList name
      owner_valid := by simpa using h.1
      name_valid := by simpa using h.2 }
  else none

def parse? (s : String) : Option Repository :=
  let t := Text.trim s.toList
  ofParts? (t.takeWhile (· != '/')) (t.dropWhile (· != '/')).tail

def path (r : Repository) : String :=
  r.owner ++ "/" ++ r.name

end Repository

end CreditRoll
