import CreditRoll.Config.Decode
import CreditRoll.Files
import CreditRoll.Text.Utf8

namespace CreditRoll.Config

inductive Error where
  | unreadable (path : String) (fault : ReadFault)
  | malformed (path : String)
  | wrong (path : String) (fault : Fault)
  deriving DecidableEq, Repr

def Error.message : Error → String
  | unreadable path fault => "Failed to read config file " ++ path ++ ": " ++ fault.message
  | malformed path => "Invalid config file " ++ path ++ ": not a single well-formed document"
  | wrong path fault => "Invalid config file " ++ path ++ ": " ++ fault.message

def Error.causes : Error → List String
  | unreadable _ fault => [fault.message]
  | malformed _ | wrong _ _ => []

def parse (path : String) (s : List Char) : Except Error Config :=
  match ofText? s with
  | none => .error (.malformed path)
  | some r => r.mapError (.wrong path)

/-- The files that may hold the config of a directory, the first that exists before the others. -/
def candidates (dir : String) : List String :=
  ["config.yaml", "config.yml"].map (Path.join dir)

def firstOf (files : Files) : List String → Except Error Config
  | [] => .ok {}
  | path :: paths =>
    match files path with
    | .absent => firstOf files paths
    | .failed fault => .error (.unreadable path fault)
    | .content bytes =>
      match Text.Utf8.decode? bytes with
      | some s => parse path s
      | none => .error (.unreadable path .notText)

def sourceOf? (files : Files) : List String → Option String
  | [] => none
  | path :: paths =>
    match files path with
    | .absent => sourceOf? files paths
    | .failed _ => none
    | .content bytes => (Text.Utf8.decode? bytes).map fun _ ↦ path

def ofDirectory (files : Files) (dir : String) : Except Error Config :=
  firstOf files (candidates dir)

def load (files : Files) : (dir : Option String) → Except Error Config
  | some dir => ofDirectory files dir
  | none => .ok {}

def source? (files : Files) (dir : Option String) : Option String :=
  dir >>= fun dir ↦ sourceOf? files (candidates dir)

end CreditRoll.Config
