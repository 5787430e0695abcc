import CreditRoll.Credit
import CreditRoll.Settings

namespace CreditRoll

/-- A step of a run, as the log tells it. -/
inductive Event where
  | configRead (path : String)
  | settingsResolved (settings : Settings)
  | anonymous
  | get (url : String)
  | page (count : Nat) (hasNext : Bool)
  | listed (repository : String) (count : Nat)
  | duplicateSkipped (login : String)
  | resolved (credit : Credit)
  deriving DecidableEq

end CreditRoll
