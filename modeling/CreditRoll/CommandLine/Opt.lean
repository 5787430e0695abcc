import CreditRoll.Credit.Order
import CreditRoll.Credit.Style

namespace CreditRoll.CommandLine

inductive Opt where
  | repo
  | format
  | sort
  | order
  | apiUrl
  | verbose
  | configSchema
  | help
  | version
  deriving DecidableEq, Repr

namespace Opt

def all : List Opt :=
  [repo, format, sort, order, apiUrl, verbose, configSchema, help, version]

def long : Opt → String
  | repo => "repo"
  | format => "format"
  | sort => "sort"
  | order => "order"
  | apiUrl => "api-url"
  | verbose => "verbose"
  | configSchema => "config-schema"
  | help => "help"
  | version => "version"

def short? : Opt → Option Char
  | repo => some 'R'
  | format => some 'f'
  | sort => some 's'
  | verbose => some 'v'
  | help => some 'h'
  | version => some 'V'
  | order | apiUrl | configSchema => none

def valueName? : Opt → Option String
  | repo => some "OWNER/NAME"
  | format => some "FORMAT"
  | order => some "ORDER"
  | apiUrl => some "URL"
  | sort | verbose | configSchema | help | version => none

def takesValue (o : Opt) : Bool :=
  o.valueName?.isSome

def ofLong? (name : String) : Option Opt :=
  all.find? (·.long == name)

def ofShort? (c : Char) : Option Opt :=
  all.find? (·.short? == some c)

def display (o : Opt) : String :=
  "--" ++ o.long ++
    match o.valueName? with
    | some name => " <" ++ name ++ ">"
    | none => ""

def summary (longHelp : Bool) : Opt → String
  | repo => "Target repository (owner/name)"
  | format => "Output line format"
  | sort => "Sort by display name (same as --order name)"
  | order => "Output order"
  | apiUrl => "GitHub REST API base URL"
  | verbose => "Log requests and pipeline steps to stderr"
  | configSchema => "Print the JSON Schema of the config file and exit"
  | help =>
    if longHelp then "Print help (see a summary with '-h')"
    else "Print help (see more with '--help')"
  | version => "Print version"

def choices : Opt → List (String × String)
  | format => (Choice.all : List Style).map fun s ↦ (Choice.label s, Choice.summary s)
  | order => (Choice.all : List Order).map fun o ↦ (Choice.label o, Choice.summary o)
  | _ => []

end Opt

end CreditRoll.CommandLine
