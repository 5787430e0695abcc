import CreditRoll.Json.Writer

namespace CreditRoll.Json

def newLine (depth : Nat) : List Char :=
  '\n' :: List.replicate (2 * depth) ' '

mutual

def indented (depth : Nat) : Json → List Char
  | .array [] => ['[', ']']
  | .array (v :: vs) =>
    '[' :: newLine (depth + 1) ++ indented (depth + 1) v ++ indentedItems (depth + 1) vs ++
      newLine depth ++ [']']
  | .object [] => ['\x7b', '\x7d']
  | .object (m :: ms) =>
    '\x7b' :: newLine (depth + 1) ++ writeString m.1 ++ [':', ' '] ++
      indented (depth + 1) m.2 ++ indentedMembers (depth + 1) ms ++ newLine depth ++ ['\x7d']
  | v => write v

def indentedItems (depth : Nat) : List Json → List Char
  | [] => []
  | v :: vs => ',' :: newLine depth ++ indented depth v ++ indentedItems depth vs

def indentedMembers (depth : Nat) : List (Option String × Json) → List Char
  | [] => []
  | m :: ms =>
    ',' :: newLine depth ++ writeString m.1 ++ [':', ' '] ++ indented depth m.2 ++
      indentedMembers depth ms

end

end CreditRoll.Json
