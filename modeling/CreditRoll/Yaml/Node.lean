import CreditRoll.Yaml.Scanner

namespace CreditRoll.Yaml

inductive Kind where
  | scalar (plain : Bool) (text : String)
  | sequence
  | mapping
  deriving DecidableEq, Repr

structure Head where
  mark : Mark
  tag : Option String
  kind : Kind
  deriving DecidableEq, Repr

/-- A node of a document. An alias knows the head of the node that it stands for. -/
inductive Node where
  | scalar (head : Head)
  | alias (target : Head)
  | sequence (head : Head) (items : List Node)
  | mapping (head : Head) (pairs : List (Node × Node))

namespace Node

def head : Node → Head
  | .scalar head => head
  | .alias target => target
  | .sequence head _ => head
  | .mapping head _ => head

def absent (mark : Mark) : Node :=
  .scalar ⟨mark, none, .scalar true ""⟩

abbrev Handles := List (String × String)

def standardHandles : Handles :=
  [("!", "!"), ("!!", "tag:yaml.org,2002:")]

structure Input where
  tokens : List Token
  last : Mark
  anchors : List (String × Head)

namespace Input

def mark (i : Input) : Mark :=
  match i.tokens with
  | [] => i.last
  | t :: _ => t.mark

def next? (i : Input) : Option Sign :=
  i.tokens.head?.map Token.sign

def drop (i : Input) : Input :=
  { i with tokens := i.tokens.drop 1 }

def isAt (signs : List Sign) (i : Input) : Bool :=
  i.next?.any signs.contains

def anchored (name : Option String) (head : Head) (i : Input) : Input :=
  match name with
  | some name => { i with anchors := (name, head) :: i.anchors }
  | none => i

end Input

structure Properties where
  anchor : Option String
  tag : Option String

def resolveTag? (handles : Handles) (handle suffix : String) : Option String :=
  if handle.isEmpty then some suffix else (handles.lookup handle).map (· ++ suffix)

def properties? (handles : Handles) (i : Input) : Option (Properties × Input) :=
  match i.tokens with
  | ⟨.anchor name, _⟩ :: ⟨.tag handle suffix, _⟩ :: ts
  | ⟨.tag handle suffix, _⟩ :: ⟨.anchor name, _⟩ :: ts => do
    return (⟨some name, some (← resolveTag? handles handle suffix)⟩, { i with tokens := ts })
  | ⟨.anchor name, _⟩ :: ts => some (⟨some name, none⟩, { i with tokens := ts })
  | ⟨.tag handle suffix, _⟩ :: ts => do
    return (⟨none, some (← resolveTag? handles handle suffix)⟩, { i with tokens := ts })
  | _ => some (⟨none, none⟩, i)

/-- The places where a node may stand: in brackets, in a block, or in a block as the key or the
value of a pair, where the entries of a sequence need not be indented. -/
inductive Context where
  | flow
  | block
  | pair
  deriving DecidableEq, Repr

mutual

/-- Reads a node. Every call uses up one unit of fuel, and every second call a token. -/
def read? (handles : Handles) : (fuel : Nat) → Context → Input → Option (Node × Input)
  | 0, _, _ => none
  | fuel + 1, context, i =>
    match i.next? with
    | some (.alias name) => do
      return (.alias (← i.anchors.lookup name), i.drop)
    | _ => do
      let mark := i.mark
      let (p, i) ← properties? handles i
      let head := fun kind ↦ (⟨mark, p.tag, kind⟩ : Head)
      let enter := fun kind ↦ i.drop.anchored p.anchor (head kind)
      let sequence := fun r : List Node × Input ↦ (Node.sequence (head .sequence) r.1, r.2)
      let mapping := fun r : List (Node × Node) × Input ↦ (Node.mapping (head .mapping) r.1, r.2)
      match i.next?, context with
      | some .blockEntry, .pair =>
        return sequence (← looseItems? handles fuel (i.anchored p.anchor (head .sequence)))
      | some (.scalar plain text), _ =>
        return (.scalar (head (.scalar plain text)), enter (.scalar plain text))
      | some .flowSequenceStart, _ =>
        return sequence (← flowItems? handles fuel true (enter .sequence))
      | some .flowMappingStart, _ =>
        return mapping (← flowPairs? handles fuel true (enter .mapping))
      | some .blockSequenceStart, .block | some .blockSequenceStart, .pair =>
        return sequence (← blockItems? handles fuel (enter .sequence))
      | some .blockMappingStart, .block | some .blockMappingStart, .pair =>
        return mapping (← blockPairs? handles fuel (enter .mapping))
      | _, _ =>
        guard (p.anchor.isSome || p.tag.isSome)
        return (.scalar (head (.scalar true "")), i.anchored p.anchor (head (.scalar true "")))

def readUnless? (handles : Handles) : (fuel : Nat) → Context → List Sign → Mark → Input →
    Option (Node × Input)
  | 0, _, _, _, _ => none
  | fuel + 1, context, signs, mark, i =>
    if i.isAt signs then some (absent mark, i) else read? handles fuel context i

def blockItems? (handles : Handles) : (fuel : Nat) → Input → Option (List Node × Input)
  | 0, _ => none
  | fuel + 1, i =>
    match i.next? with
    | some .blockEntry => do
      let (item, i) ←
        readUnless? handles fuel .block [.blockEntry, .blockEnd] i.mark.next i.drop
      let (items, i) ← blockItems? handles fuel i
      return (item :: items, i)
    | some .blockEnd => some ([], i.drop)
    | _ => none

def looseItems? (handles : Handles) : (fuel : Nat) → Input → Option (List Node × Input)
  | 0, _ => none
  | fuel + 1, i =>
    match i.next? with
    | some .blockEntry => do
      let (item, i) ←
        readUnless? handles fuel .block [.blockEntry, .key, .value, .blockEnd] i.mark.next i.drop
      let (items, i) ← looseItems? handles fuel i
      return (item :: items, i)
    | _ => some ([], i)

def blockPairs? (handles : Handles) : (fuel : Nat) → Input → Option (List (Node × Node) × Input)
  | 0, _ => none
  | fuel + 1, i =>
    let ends := [Sign.key, .value, .blockEnd]
    match i.next? with
    | some .key => do
      let (key, i) ← readUnless? handles fuel .pair ends i.mark.next i.drop
      let (value, i) ←
        if i.isAt [.value] then readUnless? handles fuel .pair ends i.mark.next i.drop
        else some (absent i.mark, i)
      let (pairs, i) ← blockPairs? handles fuel i
      return ((key, value) :: pairs, i)
    | some .blockEnd => some ([], i.drop)
    | _ => none

def flowItems? (handles : Handles) : (fuel : Nat) → (first : Bool) → Input →
    Option (List Node × Input)
  | 0, _, _ => none
  | fuel + 1, first, i =>
    if i.isAt [.flowSequenceEnd] then some ([], i.drop)
    else do
      guard (first || i.isAt [.flowEntry])
      let i := if first then i else i.drop
      if i.isAt [.flowSequenceEnd] then return ([], i.drop)
      else
        let (item, i) ←
          if i.isAt [.key] then singlePair? handles fuel i.mark i.drop
          else read? handles fuel .flow i
        let (items, i) ← flowItems? handles fuel false i
        return (item :: items, i)

/-- The rest of a pair in a sequence in brackets. A key that is left out takes the token in its
place with it. -/
def singlePair? (handles : Handles) : (fuel : Nat) → Mark → Input → Option (Node × Input)
  | 0, _, _ => none
  | fuel + 1, mark, i => do
    let (key, i) ←
      if i.isAt [.value, .flowEntry, .flowSequenceEnd] then some (absent i.mark.next, i.drop)
      else read? handles fuel .flow i
    let (value, i) ← flowValue? handles fuel [.flowEntry, .flowSequenceEnd] i
    return (.mapping ⟨mark, none, .mapping⟩ [(key, value)], i)

def flowValue? (handles : Handles) : (fuel : Nat) → List Sign → Input → Option (Node × Input)
  | 0, _, _ => none
  | fuel + 1, ends, i =>
    if i.isAt [.value] then readUnless? handles fuel .flow ends i.drop.mark i.drop
    else some (absent i.mark, i)

def flowPairs? (handles : Handles) : (fuel : Nat) → (first : Bool) → Input →
    Option (List (Node × Node) × Input)
  | 0, _, _ => none
  | fuel + 1, first, i =>
    if i.isAt [.flowMappingEnd] then some ([], i.drop)
    else do
      guard (first || i.isAt [.flowEntry])
      let i := if first then i else i.drop
      if i.isAt [.flowMappingEnd] then return ([], i.drop)
      else
        let ends := [Sign.flowEntry, .flowMappingEnd]
        let (key, value, i) ←
          if i.isAt [.key] then do
            let (key, i) ← readUnless? handles fuel .flow (.value :: ends) i.drop.mark i.drop
            let (value, i) ← flowValue? handles fuel ends i
            some (key, value, i)
          else do
            let (key, i) ← read? handles fuel .flow i
            some (key, absent i.mark, i)
        let (pairs, i) ← flowPairs? handles fuel false i
        return ((key, value) :: pairs, i)

end

/-- The directives before a document: at most one version, which must be known, and at most one
address for each tag handle. -/
def directives? (versioned : Bool) (handles : Handles) :
    List Token → Option (Bool × Handles × List Token)
  | ⟨.version major minor, _⟩ :: ts => do
    guard (!versioned && major == 1 && (minor == 1 || minor == 2))
    directives? true handles ts
  | ⟨.tagHandle handle base, _⟩ :: ts => do
    guard (handles.lookup handle).isNone
    directives? versioned (handles ++ [(handle, base)]) ts
  | ts => some (versioned || !handles.isEmpty, handles ++ standardHandles, ts)

def fuelFor (tokens : List Token) : Nat :=
  4 * tokens.length + 4

def isBare (i : Input) : Bool :=
  match i.next? with
  | none | some .documentStart | some .documentEnd => true
  | some (.version _ _) | some (.tagHandle _ _) => true
  | _ => false

def closed? (tokens : List Token) : Option Unit :=
  if tokens.all (·.sign == .documentEnd) then some () else none

def ofTokens? (tokens : List Token) (last : Mark) : Option (Option Node) :=
  match tokens with
  | [] => some none
  | _ => do
    let (directed, handles, ts) ← directives? false [] tokens
    match ts with
    | ⟨.documentStart, _⟩ :: ts => do
      let i : Input := ⟨ts, last, []⟩
      let (node, i) ←
        if isBare i then some (absent i.mark, i) else read? handles (fuelFor ts) .block i
      closed? i.tokens
      return some node
    | _ => do
      guard !directed
      let (node, i) ← read? handles (fuelFor ts) .block ⟨ts, last, []⟩
      closed? i.tokens
      return some node

def ofText? (s : List Char) : Option (Option Node) := do
  let (tokens, last) ← Token.ofText? s
  ofTokens? tokens last

end Node

end CreditRoll.Yaml
