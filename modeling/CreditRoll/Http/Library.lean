import CreditRoll.Http.Message

namespace CreditRoll.Http

/-- What the program leaves to its HTTP library. `asked` are the addresses that one request has gone
to so far, the latest first. -/
class Library where
  resolve? : (address location : String) → Option String
  withholds : (asked : List String) → (target field : String) → Bool
  referer? : (asked : List String) → (target : String) → Option String
  reasons : RequestFault → List String

variable [Library]

namespace Response

def isRedirect (r : Response) : Bool :=
  [301, 302, 303, 307, 308].contains r.status

def target? (address : String) (r : Response) : Option String := do
  guard r.isRedirect
  let (_, location) ← r.headers.find? (Headers.sameName "location" ·.1)
  Library.resolve? address location

end Response

theorem Network.target?_exhausted (address : String) : exhausted.target? address = none :=
  rfl

namespace Request

def redirected (first : Request) (asked : List String) (target : String) : Request :=
  { first with
    url := target
    headers := first.headers.filter (!Library.withholds asked target ·.1) ++
      (Library.referer? asked target).toList.map ("referer", ·) }

def maxRedirects : Nat := 10

end Request

end CreditRoll.Http
