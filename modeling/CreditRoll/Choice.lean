namespace CreditRoll

/-- A type of finitely many values, each written by a name of its own and explained in one
line. -/
class Choice (α : Type) where
  all : List α
  label : α → String
  summary : α → String

namespace Choice

variable {α : Type} [Choice α]

def ofLabel? (s : String) : Option α :=
  (all : List α).find? (label · == s)

end Choice

end CreditRoll
