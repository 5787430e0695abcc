import CreditRoll.Http.Library

namespace CreditRoll

open Http

inductive Github.Error where
  | invalidToken (reason : String)
  | invalidBase (address : String)
  | request (fault : RequestFault)
  | api (status : Nat) (explanation : String)
  | rateLimited (reset : Option Nat)
  deriving DecidableEq, Repr

namespace Github

def Error.message : Error → String
  | invalidToken reason => "Invalid GitHub token: " ++ reason
  | invalidBase address => "Invalid GitHub API URL: " ++ address
  | request fault => "GitHub request failed: " ++ fault.message
  | api status explanation =>
    let status := " (HTTP " ++ toString status ++ ")"
    if explanation.isEmpty then "GitHub API error" ++ status
    else "GitHub API error: " ++ explanation ++ status
  | rateLimited reset =>
    let reset := match reset with
      | some time => " (resets at unix time " ++ toString time ++ ")"
      | none => ""
    "GitHub API rate limit exceeded" ++ reset ++ "; set GITHUB_TOKEN to raise the limit"

end Github

inductive Failure where
  | invalidRepository (given : String)
  | github (error : Github.Error)
  | outputFull
  deriving DecidableEq, Repr

namespace Failure

def message : Failure → String
  | invalidRepository given =>
    "Invalid repository format: " ++ given ++ ". Expected owner/name"
  | github error => error.message
  | outputFull => "Failed to write output: failed to write whole buffer"

def causes [Library] : Failure → List String
  | github (.request fault) => fault.message :: Library.reasons fault
  | outputFull => ["failed to write whole buffer"]
  | _ => []

end Failure

end CreditRoll
