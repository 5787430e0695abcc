namespace CreditRoll

inductive ReadFault where
  | isDirectory
  | notDirectory
  | notText
  | other (reason : String)
  deriving DecidableEq, Repr

def ReadFault.message : ReadFault → String
  | isDirectory => "Is a directory (os error 21)"
  | notDirectory => "Not a directory (os error 20)"
  | notText => "stream did not contain valid UTF-8"
  | other reason => reason

inductive Reading where
  | absent
  | failed (fault : ReadFault)
  | content (bytes : List UInt8)
  deriving DecidableEq, Repr

abbrev Files := String → Reading

namespace Path

/-- The path of an entry in a directory. An absolute path stands for itself. -/
def join (dir name : String) : String :=
  if name.toList.head? == some '/' then name
  else if dir.isEmpty || dir.toList.getLast? == some '/' then dir ++ name
  else dir ++ "/" ++ name

def parts (path : String) : List String :=
  ((path.toList.splitOn '/').map String.ofList).filter (!·.isEmpty)

end Path

end CreditRoll
