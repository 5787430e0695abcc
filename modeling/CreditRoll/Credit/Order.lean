import CreditRoll.Choice
import CreditRoll.Credit
import CreditRoll.Text.Lowercase

namespace CreditRoll

inductive Order where
  | listed
  | byName
  deriving DecidableEq, Repr, Inhabited

namespace Order

instance : Choice Order where
  all := [listed, byName]
  label
    | listed => "api"
    | byName => "name"
  summary
    | listed => "As returned by the API (most contributions first)"
    | byName => "Alphabetically by display name, ignoring case"

def key (c : Credit) : String :=
  String.ofList (Text.lowercase c.displayName.toList)

/-- Credits whose names differ in case alone keep their places among each other. -/
def arrange : Order → List Credit → List Credit
  | listed, credits => credits
  | byName, credits => credits.mergeSort fun a b ↦ decide (key a ≤ key b)

end Order

end CreditRoll
