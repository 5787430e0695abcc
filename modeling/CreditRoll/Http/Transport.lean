import CreditRoll.Http.Library
import CreditRoll.Url.Relative

namespace CreditRoll

namespace Http

open Url

section Guards

variable [Idna]

def SameServer (address address' : String) : Prop :=
  (Address.parse? address).map Address.server = (Address.parse? address').map Address.server

instance (address address' : String) : Decidable (SameServer address address') :=
  inferInstanceAs (Decidable (_ = _))

def secretFields : List String :=
  ["authorization", "cookie", "cookie2", "proxy-authorization", "www-authenticate"]

def contentFields : List String :=
  ["content-encoding", "content-length", "content-type", "transfer-encoding"]

/-- The library keeps to what it promises: a request that is sent on to another server says no
longer who sends it, and all else that it says stays, save for what it says about its content. -/
structure Library.Guarded [Library] : Prop where
  guarded : ∀ {address : String} {asked : List String} {target : String},
    ¬ SameServer address target → withholds (address :: asked) target "authorization" = true
  faithful : ∀ {asked : List String} {target field : String},
    (∀ address ∈ asked, SameServer address target) → field ∉ contentFields →
      withholds asked target field = false
  spared : ∀ {asked : List String} {target field : String},
    field ∉ secretFields ++ contentFields → withholds asked target field = false

/-- The address that a request is sent on from, unless that is a secure place and it goes to an
open one. -/
def refererOf? (target address : String) : Option String := do
  let b ← Address.parse? target
  let a ← Address.parse? address
  guard !(a.scheme == "https" && b.scheme == "http")
  return { a with user := [], path := a.path.takeWhile (· != '#') }.text

end Guards

instance standardNames : Idna where
  ascii? name := some name

/-- The library as it is documented. No requests get anywhere with it. -/
instance standardLibrary : Library where
  resolve? address location := (Address.resolve? address location).map Address.text
  withholds asked target field :=
    secretFields.contains field && !decide (∀ address ∈ asked, SameServer address target)
  referer? asked target := asked.head? >>= refererOf? target
  reasons
    | .notAbsolute => ["relative URL without a base"]
    | .notWeb _ => ["URL scheme is not allowed"]
    | .notUri _ => ["Parsed Url is not a valid Uri"]
    | .unsent => ["client error (Connect)"]
    | .endless _ => ["too many redirects"]
    | .unreadable => ["invalid response body"]

theorem guarded_standardLibrary : Library.Guarded where
  guarded h := by
    simp only [Library.withholds, List.forall_mem_cons, Bool.and_eq_true, Bool.not_eq_true',
      decide_eq_false_iff_not]
    exact ⟨rfl, fun ha ↦ h ha.1⟩
  faithful h _ := by
    simp only [Library.withholds, decide_eq_true h, Bool.not_true, Bool.and_false]
  spared h := by
    rw [List.mem_append, not_or] at h
    simp only [Library.withholds, List.contains_eq_mem, decide_eq_false h.1, Bool.false_and]

end Http

end CreditRoll
