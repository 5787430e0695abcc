import CreditRoll.Json.Token
import CreditRoll.Json.Value

namespace CreditRoll.Json

/-- An open array or object: the values read so far, latest first, and in an object the name whose
value is being read. -/
inductive Frame where
  | items (before : List Json)
  | members (before : List (Option String × Json)) (name : Option String)

/-- Reads the rest of a value inside the open frames, the innermost first. `done` is the value that
has just been completed, or `none` where one is to begin. -/
def resume? : List Frame → (done : Option Json) → List Token → Option Json
  | stack, none, .null :: ts => resume? stack (some .null) ts
  | stack, none, .bool b :: ts => resume? stack (some (.bool b)) ts
  | stack, none, .number lexeme :: ts => resume? stack (some (.number lexeme)) ts
  | stack, none, .string s :: ts => resume? stack (some (.string s)) ts
  | stack, none, .openArray :: .closeArray :: ts => resume? stack (some (.array [])) ts
  | stack, none, .openArray :: ts => resume? (.items [] :: stack) none ts
  | stack, none, .openObject :: .closeObject :: ts => resume? stack (some (.object [])) ts
  | stack, none, .openObject :: .string name :: .colon :: ts =>
    resume? (.members [] name :: stack) none ts
  | [], some v, [] => some v
  | .items before :: stack, some v, .comma :: ts => resume? (.items (v :: before) :: stack) none ts
  | .items before :: stack, some v, .closeArray :: ts =>
    resume? stack (some (.array (v :: before).reverse)) ts
  | .members before name :: stack, some v, .comma :: .string name' :: .colon :: ts =>
    resume? (.members ((name, v) :: before) name' :: stack) none ts
  | .members before name :: stack, some v, .closeObject :: ts =>
    resume? stack (some (.object ((name, v) :: before).reverse)) ts
  | _, _, _ => none

def ofSource? (s : Source) : Option Json :=
  Token.all? s >>= resume? [] none

def ofChars? (s : List Char) : Option Json :=
  ofSource? (s.map some)

end CreditRoll.Json
