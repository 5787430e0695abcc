import CreditRoll.Http.Header

namespace CreditRoll.Http

structure Request where
  method : String
  url : String
  headers : Headers
  deriving DecidableEq, Repr

/-- An answer. The body is `none` if the connection broke before all of it came. -/
structure Response where
  status : Nat
  headers : Headers
  body : Option (List UInt8)
  deriving DecidableEq, Repr

namespace Response

def isSuccess (r : Response) : Bool :=
  200 ≤ r.status && r.status < 300

/-- Answers with these two statuses come without a body. -/
def delivered (r : Response) : Response :=
  if r.status == 204 || r.status == 304 then { r with body := some [] } else r

end Response

inductive Reply where
  | answer (response : Response)
  | hangUp
  deriving DecidableEq, Repr

/-- Where requests go: to a server that gives its replies one after the other, or nowhere. -/
inductive Network where
  | server (replies : List Reply)
  | unreachable
  deriving DecidableEq, Repr

namespace Network

def exhausted : Response where
  status := 500
  headers := []
  body := some "script exhausted".toUTF8.toList

def exchange : Network → Network × Bool × Option Response
  | unreachable => (unreachable, false, none)
  | server [] => (server [], true, some exhausted)
  | server (.hangUp :: rest) => (server rest, true, none)
  | server (.answer r :: rest) => (server rest, true, some r.delivered)

def size : Network → Nat
  | unreachable => 0
  | server replies => replies.length

end Network

inductive RequestFault where
  | notAbsolute
  | notWeb (address : String)
  | notUri (address : String)
  | unsent
  | endless (address : String)
  | unreadable
  deriving DecidableEq, Repr

def RequestFault.message : RequestFault → String
  | notAbsolute => "builder error"
  | notWeb address | notUri address => "builder error for url (" ++ address ++ ")"
  | unsent => "error sending request"
  | endless address => "error following redirect for url (" ++ address ++ ")"
  | unreadable => "error decoding response body"

end CreditRoll.Http
