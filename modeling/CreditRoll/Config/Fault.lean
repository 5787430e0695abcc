import CreditRoll.Config
import CreditRoll.Yaml.Cell
import CreditRoll.Yaml.Meaning

namespace CreditRoll.Config

inductive Found where
  | scalar (meaning : Yaml.Meaning)
  | sequence
  | mapping
  deriving DecidableEq, Repr

inductive Wanted where
  | config
  | field
  | text
  | choice
  | nothing
  | null
  | bool
  | integer
  | number
  deriving DecidableEq, Repr

inductive Cause where
  | wrongKind (found : Found) (wanted : Wanted)
  | wrongText (text : String) (wanted : Wanted)
  | unknownField (name : String)
  | repeatedField (field : Field)
  | unknownChoice (name : String) (known : List String)
  deriving DecidableEq, Repr

/-- Whether a fault lies in a setting's value, and in which setting's. The setting is not known
where its name is an alias. -/
inductive Place where
  | outside
  | value (field : Field)
  | unnamedValue
  deriving DecidableEq, Repr

structure Fault where
  place : Place
  cause : Cause
  mark : Yaml.Mark
  deriving DecidableEq, Repr

def Found.describe : Found → String
  | scalar meaning => meaning.describe
  | sequence => "sequence"
  | mapping => "map"

def Wanted.describe : Wanted → String
  | config => "struct Config"
  | field => "field identifier"
  | text => "a string"
  | choice => "a YAML tag starting with '!'"
  | nothing => "unit"
  | null => "null"
  | bool => "a boolean"
  | integer => "an integer"
  | number => "a float"

def listed (names : List String) : String :=
  match names.map fun name ↦ "`" ++ name ++ "`" with
  | [a, b] => a ++ " or " ++ b
  | names => "one of " ++ ", ".intercalate names

def Cause.message : Cause → String
  | wrongKind found wanted =>
    "invalid type: " ++ found.describe ++ ", expected " ++ wanted.describe
  | wrongText text wanted =>
    "invalid value: string " ++ Text.quoted text ++ ", expected " ++ wanted.describe
  | unknownField name =>
    "unknown field `" ++ name ++ "`, expected " ++
      listed ((Choice.all : List Field).map Choice.label)
  | repeatedField field => "duplicate field `" ++ Choice.label field ++ "`"
  | unknownChoice name known => "unknown variant `" ++ name ++ "`, expected " ++ listed known

def Place.message : Place → String
  | outside => ""
  | value field => Choice.label field ++ ": "
  | unnamedValue => "?: "

def Fault.message (f : Fault) : String :=
  f.place.message ++ f.cause.message ++
    if f.mark.line = 0 ∧ f.mark.column = 0 then ""
    else " at line " ++ toString (f.mark.line + 1) ++ " column " ++ toString (f.mark.column + 1)

end CreditRoll.Config
