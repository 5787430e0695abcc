import CreditRoll.Files

namespace CreditRoll

/-- Files and directories held in memory. An entry has its path from the root of the tree, and a
file has its content. The directories that an entry lies in exist without entries of their own. -/
structure FileTree where
  entries : List (List String × Option (List UInt8))

namespace FileTree

inductive Item where
  | absent
  | directory
  | file (bytes : List UInt8)
  deriving DecidableEq, Repr

def item (t : FileTree) (path : List String) : Item :=
  match t.entries.find? (·.1 == path) with
  | some (_, some bytes) => .file bytes
  | some (_, none) => .directory
  | none =>
    if path.isEmpty || t.entries.any (path.isPrefixOf ·.1) then .directory else .absent

def walk (t : FileTree) (dir : List String) : List String → Reading
  | [] => .failed .isDirectory
  | "." :: rest => walk t dir rest
  | ".." :: rest => if dir.isEmpty then .absent else walk t dir.dropLast rest
  | name :: rest =>
    match t.item (dir ++ [name]) with
    | .absent => .absent
    | .directory => walk t (dir ++ [name]) rest
    | .file bytes => if rest.isEmpty then .content bytes else .failed .notDirectory

def mounted (t : FileTree) (place : String) : Files := fun path ↦
  match Path.parts path with
  | root :: rest => if root == place then t.walk [] rest else .absent
  | [] => .failed .isDirectory

end FileTree

end CreditRoll
