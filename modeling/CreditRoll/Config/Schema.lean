import CreditRoll.Config
import CreditRoll.Json.Layout

namespace CreditRoll.Config.Schema

def reference (name : String) : String × Json :=
  ("$ref", .ofText ("#/$defs/" ++ name))

def content : Field → List (String × Json)
  | .repository => [("type", .ofText "string"), ("default", .ofText ({} : Config).repository)]
  | .style => [reference "OutputFormat"]
  | .order => [reference "SortOrder"]
  | .apiUrl => [("type", .ofText "string"), ("default", .ofText ({} : Config).apiUrl)]

def property (f : Field) : String × Json :=
  (Choice.label f, .ofMembers (("description", .ofText (Choice.summary f)) :: content f))

def values (α : Type) [Choice α] (description : String) : Json :=
  .ofMembers [
    ("description", .ofText description),
    ("oneOf", .array ((Choice.all : List α).map fun a ↦ .ofMembers [
      ("description", .ofText (Choice.summary a)),
      ("type", .ofText "string"),
      ("const", .ofText (Choice.label a))]))]

def properties : List (String × Json) :=
  ((Choice.all : List Field).mergeSort fun a b ↦
    decide (Choice.label a ≤ Choice.label b)).map property

def json : Json :=
  .ofMembers [
    ("$schema", .ofText "https://json-schema.org/draft/2020-12/schema"),
    ("title", .ofText "Config"),
    ("description", .ofText "Top-level configuration for ghcredits."),
    ("type", .ofText "object"),
    ("properties", .ofMembers properties),
    ("additionalProperties", .bool false),
    ("$defs", .ofMembers [
      ("OutputFormat", values Style "How each contributor line is rendered."),
      ("SortOrder", values Order "Order in which contributors are printed.")])]

def text : String :=
  String.ofList (json.indented 0)

end CreditRoll.Config.Schema
