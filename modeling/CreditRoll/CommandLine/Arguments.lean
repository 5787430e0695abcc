import CreditRoll.CommandLine.Stop
import CreditRoll.Repository

namespace CreditRoll.CommandLine

structure Arguments where
  repository : Option Repository
  style : Option Style
  sort : Bool
  order : Option Order
  apiUrl : Option String
  verbose : Bool
  configSchema : Bool
  deriving DecidableEq

structure Accepted where
  given : List Opt
  arguments : Arguments

namespace Accepted

def none : Accepted :=
  ⟨[], ⟨Option.none, Option.none, false, Option.none, Option.none, false, false⟩⟩

def choice {α : Type} [Choice α] (o : Opt) (value : String) : Except Stop α :=
  if value.isEmpty then .error (.valueMissing o)
  else match Choice.ofLabel? value with
    | some a => .ok a
    | Option.none => .error (.unknownChoice o value)

def set (a : Arguments) (o : Opt) (value : String) : Except Stop Arguments :=
  match o with
  | .repo =>
    match Repository.parse? value with
    | some r => .ok { a with repository := some r }
    | Option.none => .error (.malformedRepository value)
  | .format => do return { a with style := some (← choice .format value) }
  | .sort => .ok { a with sort := true }
  | .order => do return { a with order := some (← choice .order value) }
  | .apiUrl => .ok { a with apiUrl := some value }
  | .verbose => .ok { a with verbose := true }
  | .configSchema => .ok { a with configSchema := true }
  | .help => .error .longHelp
  | .version => .error .version

def add (a : Accepted) (o : Opt) (value : String) : Except Stop Accepted :=
  if a.given.contains o then .error (.repeated o)
  else do return ⟨a.given ++ [o], ← set a.arguments o value⟩

def check (a : Accepted) : Except Stop Arguments :=
  if a.given.contains .configSchema && a.given.length > 1 then .error (.notAlone .configSchema)
  else
    match a.given.filter fun o ↦ o = .sort ∨ o = .order with
    | first :: second :: _ => .error (.conflict first second)
    | _ => .ok a.arguments

end Accepted

/-- An option still waiting for its value, or for the word after it to show that it is complete. -/
abbrev Pending := Option (Opt × Option String)

namespace Pending

def settle (p : Pending) (a : Accepted) : Except Stop Accepted :=
  match p with
  | none => .ok a
  | some (o, some value) => a.add o value
  | some (o, none) => .error (.valueMissing o)

end Pending

def longWord? (w : List Char) : Option (String × Option String) :=
  match w with
  | '-' :: '-' :: rest =>
    let name := String.ofList (rest.takeWhile (· != '='))
    match rest.dropWhile (· != '=') with
    | _ :: value => some (name, some (String.ofList value))
    | [] => some (name, none)
  | _ => none

def readLong (a : Accepted) (p : Pending) (name : String) (value : Option String) :
    Except Stop (Accepted × Pending) :=
  match Opt.ofLong? name with
  | none => .error (.unknownArgument ("--" ++ name))
  | some o =>
    match o.takesValue, value with
    | true, none => do return (← p.settle a, some (o, none))
    | true, some value => do return (← (← p.settle a).add o value, none)
    | false, none => do return (← (← p.settle a).add o "", none)
    | false, some value => .error (.valueUnexpected o value)

/-- Reads a word of short options. The first that takes a value has the rest of the word for it,
less an equals sign, or else waits for the next word. -/
def readShort (a : Accepted) (p : Pending) : List Char → Except Stop (Accepted × Pending)
  | [] => .ok (a, p)
  | c :: rest =>
    match Opt.ofShort? c with
    | none => .error (.unknownArgument ("-" ++ String.singleton c))
    | some .help => do
      let _ ← p.settle a
      .error .shortHelp
    | some o =>
      if o.takesValue then
        match rest with
        | [] => do return (← p.settle a, some (o, none))
        | '=' :: value => do return (← (← p.settle a).add o (String.ofList value), none)
        | value => do return (← (← p.settle a).add o (String.ofList value), none)
      else do readShort (← (← p.settle a).add o "") none rest

/-- Reads the words of a command line one after the other. No word stands for itself, so one that is
neither an option nor the value of one is an error, and so is every word after two bare dashes. -/
def readWords (a : Accepted) (p : Pending) : List String → Except Stop Accepted
  | [] => p.settle a
  | w :: ws =>
    if w = "--" then
      match ws with
      | [] => p.settle a
      | w' :: _ => .error (.unknownArgument w')
    else
      match longWord? w.toList with
      | some (name, value) => do
        let (a, p) ← readLong a p name value
        readWords a p ws
      | none =>
        match w.toList, p with
        | '-' :: c :: cs, _ => do
          let (a, p) ← readShort a p (c :: cs)
          readWords a p ws
        | _, some (o, none) => readWords a (some (o, some w)) ws
        | _, _ => .error (.unknownArgument w)

def parse (words : List String) : Except Stop Arguments := do
  (← readWords .none none words).check

end CreditRoll.CommandLine
