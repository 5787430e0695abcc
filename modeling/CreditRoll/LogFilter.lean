import CreditRoll.Text.Blank
import CreditRoll.Text.Numeral
import CreditRoll.Text.Quoted

namespace CreditRoll

namespace LogFilter

def directives (verbose : Bool) (log : Option String) : String :=
  if verbose then "debug" else log.getD "warn"

inductive Fault where
  | malformed
  | unknownLevel
  deriving DecidableEq, Repr

def Fault.message : Fault → String
  | malformed => "invalid filter directive"
  | unknownLevel =>
    "error parsing level filter: expected one of \"off\", \"error\", \"warn\", \"info\", " ++
      "\"debug\", \"trace\", or a number 0-5"

def lowerAscii (s : List Char) : List Char :=
  s.map Char.toLower

def isLevel (s : List Char) : Bool :=
  (Text.signedWord64? s).any (· ≤ 5) ||
    ["off", "error", "warn", "info", "debug", "trace"].any (·.toList == lowerAscii s)

/-- Where a reader of a directive stands. A directive is a level or a target, or a target with a
span and its fields in brackets, and then a level after an equals sign, which begins at a place. -/
inductive State where
  | start
  | name
  | span
  | field (empty : Bool)
  | fields
  | target
  | level (place : Nat)
  deriving DecidableEq, Repr

def startsName (c : Char) : Bool :=
  c == '-' || c == ':' || c == '_' || Text.Class.isAlphanumeric c

def State.next? (place : Nat) (c : Char) : State → Option State
  | start => if c == '[' then some span else if startsName c then some name else none
  | name => some (if c == '=' then level (place + 1) else if c == '[' then span else name)
  | span => some (if c == ']' then target else if c == '\x7b' then field true else span)
  | field empty =>
    if c == '\x7d' then if empty then none else some fields
    else some (field false)
  | fields => if c == ']' then some target else none
  | target => if c == '=' then some (level (place + 1)) else none
  | level place => some (level place)

def run? : (place : Nat) → List Char → State → Option State
  | _, [], state => some state
  | place, c :: s, state => do run? (place + 1) s (← state.next? place c)

/-- Checks one directive. The places in it are counted without the blanks around it, but a level is
cut from the directive with them. -/
def check (s : List Char) : Except Fault Unit :=
  match run? 0 (Text.trim s) .start with
  | some .name | some .target => .ok ()
  | some (.level place) =>
    let level := s.drop place
    if level.isEmpty || isLevel level then .ok () else .error .unknownLevel
  | _ => .error .malformed

def checkAll (s : String) : Except Fault Unit :=
  ((s.toList.splitOn ',').filter (!·.isEmpty)).forM check

def warning? (directives : String) : Option String :=
  match checkAll directives with
  | .ok () => none
  | .error fault =>
    some ("Ignoring invalid log filter " ++ Text.quoted directives ++ ": " ++ fault.message)

end LogFilter

end CreditRoll
