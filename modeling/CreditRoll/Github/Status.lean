import CreditRoll.Github.Error
import CreditRoll.Github.Wire
import CreditRoll.Http.Message

namespace CreditRoll.Github.Status

open Http

def remaining? (headers : Headers) : Option Nat :=
  headers.count? "x-ratelimit-remaining"

def reset? (headers : Headers) : Option Nat :=
  headers.count? "x-ratelimit-reset"

/-- An exhausted quota is a refusal that says nothing remains; a burst of requests has a status of
its own. -/
def isRateLimited (status : Nat) (headers : Headers) : Bool :=
  status == 429 || (status == 403 && remaining? headers == some 0)

def bodyText (r : Response) : String :=
  match r.body with
  | some bytes => String.ofList (Text.Utf8.decodeLossy bytes)
  | none => ""

def check (r : Response) : Except Error Response :=
  if r.isSuccess then .ok r
  else if isRateLimited r.status r.headers then .error (.rateLimited (reset? r.headers))
  else .error (.api r.status (Wire.errorMessage (bodyText r)))

end CreditRoll.Github.Status
