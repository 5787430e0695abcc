import CreditRoll.Config.Fault
import CreditRoll.Yaml.Node

namespace CreditRoll.Config

open Yaml (Head Node Meaning)

def scalarTags : List (String × Wanted × (List Char → Option Meaning)) :=
  [("tag:yaml.org,2002:bool", .bool, Meaning.bool?),
    ("tag:yaml.org,2002:int", .integer, Meaning.integer?),
    ("tag:yaml.org,2002:float", .number, Meaning.number?),
    ("tag:yaml.org,2002:null", .null, Meaning.null?)]

def ownName? (tag : Option String) : Option String :=
  match tag.map String.toList with
  | some ('!' :: name) => some (String.ofList name)
  | _ => none

/-- What a node without a use is. The text of a plain scalar tells what it stands for, unless there
is a tag of the general kind. -/
def found (h : Head) : Except Cause Found :=
  match h.kind with
  | .sequence => .ok .sequence
  | .mapping => .ok .mapping
  | .scalar plain text =>
    match h.tag.bind (scalarTags.lookup ·) with
    | some (wanted, read?) =>
      match read? text.toList with
      | some meaning => .ok (.scalar meaning)
      | none => .error (.wrongText text wanted)
    | none =>
      if plain && (h.tag.isNone || (ownName? h.tag).isSome) then
        .ok (.scalar (.ofPlain text))
      else .ok (.scalar (.text text))

def mismatch {α : Type} (h : Head) (wanted : Wanted) : Except Cause α := do
  .error (.wrongKind (← found h) wanted)

/-- A name or another text. Every scalar is one, whatever its text may stand for. -/
def text (wanted : Wanted) (h : Head) : Except Cause String :=
  match h.kind with
  | .scalar _ text => .ok text
  | _ => mismatch h wanted

def named {α : Type} [Choice α] (name : String) : Except Cause α :=
  match Choice.ofLabel? name with
  | some a => .ok a
  | none => .error (.unknownChoice name ((Choice.all : List α).map Choice.label))

/-- The value beside a tag that is a name already: none, or null. -/
def nothing (h : Head) : Except Cause Unit :=
  match h.kind with
  | .scalar plain text =>
    if text.isEmpty || (plain && (Meaning.null? text.toList).isSome) then .ok ()
    else .error (.wrongText text .null)
  | _ => mismatch h .nothing

def choice {α : Type} [Choice α] (h : Head) : Except Cause α :=
  match ownName? h.tag with
  | some name => do
    let a ← named name
    nothing h
    return a
  | none => do named (← text .choice h)

def field (h : Head) : Except Cause Field := do
  let name ← text .field h
  match Choice.ofLabel? name with
  | some f => .ok f
  | none => .error (.unknownField name)

def set (c : Config) (f : Field) (h : Head) : Except Cause Config :=
  match f with
  | .repository => do return { c with repository := ← text .text h }
  | .style => do return { c with style := ← choice h }
  | .order => do return { c with order := ← choice h }
  | .apiUrl => do return { c with apiUrl := ← text .text h }

def located {α : Type} (place : Place) (mark : Yaml.Mark) (r : Except Cause α) : Except Fault α :=
  r.mapError fun cause ↦ ⟨place, cause, mark⟩

def ofPairs (mark : Yaml.Mark) (given : List Field) (c : Config) :
    List (Node × Node) → Except Fault Config
  | [] => .ok c
  | (key, value) :: pairs => do
    let f ← located .outside key.head.mark (field key.head)
    if given.contains f then .error ⟨.outside, .repeatedField f, mark⟩
    else
      let place := match key with
        | .alias _ => Place.unnamedValue
        | _ => .value f
      let c ← located place value.head.mark (set c f value.head)
      ofPairs mark (f :: given) c pairs

def ofNode : Node → Except Fault Config
  | .mapping head pairs => ofPairs head.mark [] {} pairs
  | node =>
    if node.head.kind = .scalar true "" then .ok {}
    else located .outside node.head.mark (mismatch node.head .config)

def ofText? (s : List Char) : Option (Except Fault Config) :=
  if s.all Text.isBlank then some (.ok {})
  else
    (Yaml.Node.ofText? s).map fun
      | none => .ok {}
      | some node => ofNode node

end CreditRoll.Config
