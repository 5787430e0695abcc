import CreditRoll.Config.Lookup
import CreditRoll.Config.Schema
import CreditRoll.Credit.Report
import CreditRoll.Environment
import CreditRoll.Github.Session
import CreditRoll.LogFilter

namespace CreditRoll

namespace Program

open CommandLine (Arguments)
open Github (Client Session)
open Http (Library)
open Url (Idna)

section Credits

variable [Idna] [Library]

def report (settings : Settings) (token : Option String) (s : Session) :
    Except Failure String × Session :=
  match Client.make settings.apiUrl token with
  | .error e => (.error (.github e), s)
  | .ok client =>
    match Collection.collect client.directory settings.repository settings.order s with
    | (.error e, s) => (.error (.github e), s)
    | (.ok credits, s) => (.ok (Report.text settings.style credits), s)

def run (a : Arguments) (c : Config) (token : Option String) (s : Session) :
    Except Failure String × Session :=
  match Settings.resolve a c with
  | .error e => (.error e, s)
  | .ok settings =>
    let s := s.note (.settingsResolved settings)
    report settings token (if token.isNone then s.note .anonymous else s)

end Credits

structure Outcome where
  exitCode : Nat
  output : String
  complaints : List String
  session : Session

namespace Outcome

def shown (output : String) (s : Session) : Outcome :=
  ⟨0, output, [], s⟩

def explained (several : Bool) (i : Nat) (cause : String) : String :=
  let (first, others) :=
    if several then (String.ofList ((toString i).toList.leftpad 5 ' ') ++ ": ", "       ")
    else ("    ", "    ")
  first ++ String.ofList (("\n" ++ others).toList.intercalate (cause.toList.splitOn '\n'))

def told (message : String) (causes : List String) : String :=
  if causes.isEmpty then message
  else message ++ "\n\nCaused by:\n" ++
    "\n".intercalate (causes.mapIdx (explained (1 < causes.length)))

def failed (message : String) (causes : List String) (s : Session) : Outcome :=
  ⟨1, "", ["Error: " ++ told message causes], s⟩

end Outcome

def stopped (stop : CommandLine.Stop) (s : Session) : Outcome :=
  if stop.isError then ⟨stop.exitCode, "", [stop.message], s⟩
  else ⟨stop.exitCode, stop.message, [], s⟩

def configTold (files : Files) (dir : Option String) (s : Session) : Session :=
  match Config.source? files dir with
  | some path => s.note (.configRead path)
  | none => s

section Running

variable [Idna] [Library]

/-- A run for the credits: nothing but a complete report is printed. -/
def credits (a : Arguments) (e : Environment) (files : Files) (s : Session) : Outcome :=
  let s := configTold files e.ownConfigDir s
  match Config.load files e.ownConfigDir with
  | .error fault => .failed fault.message fault.causes s
  | .ok config =>
    match run a config e.token s with
    | (.error failure, s) => .failed failure.message failure.causes s
    | (.ok text, s) => .shown text s

def execute (words : List String) (v : Variables) (files : Files) (s : Session) : Outcome :=
  match CommandLine.parse words with
  | .error stop => stopped stop s
  | .ok a =>
    if a.configSchema then .shown (Config.Schema.text ++ "\n") s
    else
      let e := Environment.read v
      let outcome := credits a e files s
      let warning := LogFilter.warning? (LogFilter.directives a.verbose e.log)
      { outcome with complaints := warning.toList ++ outcome.complaints }

end Running

end Program

end CreditRoll
