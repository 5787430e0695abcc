import CreditRoll.CommandLine.Arguments
import CreditRoll.Config

namespace CreditRoll

structure Settings where
  repository : Repository
  style : Style
  order : Order
  apiUrl : String
  deriving DecidableEq

namespace Settings

open CommandLine (Arguments)

def repository? (a : Arguments) (c : Config) : Except Failure Repository :=
  match a.repository with
  | some r => .ok r
  | none =>
    match Repository.parse? c.repository with
    | some r => .ok r
    | none => .error (.invalidRepository c.repository)

def resolve (a : Arguments) (c : Config) : Except Failure Settings := do
  return {
    repository := ← repository? a c
    style := a.style.getD c.style
    order := if a.sort then .byName else a.order.getD c.order
    apiUrl := a.apiUrl.getD c.apiUrl }

end Settings

end CreditRoll
