import CreditRoll.Collection

namespace CreditRoll

inductive Call where
  | list (repository : String)
  | user (login : String)
  deriving DecidableEq, Repr

/-- A directory held in memory: one listing, and a profile or a failure for each known login. -/
structure Roster where
  listing : Except Github.Error (List Entry)
  profiles : List (String × Except Github.Error Profile)

namespace Roster

structure Record where
  calls : List Call
  trace : List Event

def Record.called (call : Call) (r : Record) : Record :=
  { r with calls := r.calls ++ [call] }

def Record.note (event : Event) (r : Record) : Record :=
  { r with trace := r.trace ++ [event] }

def profile (roster : Roster) (login : String) : Except Github.Error Profile :=
  (roster.profiles.lookup login).getD (.error (.api 404 "Not Found"))

def directory (roster : Roster) : Directory Record where
  list owner name r := (roster.listing, r.called (.list (owner ++ "/" ++ name)))
  profile login r := (roster.profile login, r.called (.user login))
  note := Record.note

end Roster

end CreditRoll
