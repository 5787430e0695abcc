import CreditRoll.CommandLine.Opt

namespace CreditRoll.CommandLine.Help

def about : String :=
  "Print a citation line for every contributor of a GitHub repository"

def usage : String :=
  "Usage: ghcredits [OPTIONS]"

def version : String :=
  "ghcredits 0.1.0\n"

def spaces (n : Nat) : String :=
  String.ofList (List.replicate n ' ')

def spellings (o : Opt) : String :=
  match o.short? with
  | some c => "-" ++ String.singleton c ++ ", " ++ o.display
  | none => "    " ++ o.display

def width {α : Type} (f : α → String) (xs : List α) : Nat :=
  (xs.map fun x ↦ (f x).length).foldl max 0

def padded (n : Nat) (s : String) : String :=
  s ++ spaces (n - s.length)

def short : String :=
  let choices := fun o : Opt ↦
    if o.choices.isEmpty then ""
    else " [possible values: " ++ ", ".intercalate (o.choices.map Prod.fst) ++ "]"
  let line := fun o : Opt ↦
    "  " ++ padded (width spellings Opt.all) (spellings o) ++ "  " ++ o.summary false ++
      choices o ++ "\n"
  about ++ "\n\n" ++ usage ++ "\n\nOptions:\n" ++ String.join (Opt.all.map line)

def long : String :=
  let choice := fun (o : Opt) (c : String × String) ↦
    "\n" ++ spaces 10 ++ "- " ++ padded (width Prod.fst o.choices + 1) (c.1 ++ ":") ++ " " ++ c.2
  let choices := fun o : Opt ↦
    if o.choices.isEmpty then ""
    else "\n\n" ++ spaces 10 ++ "Possible values:" ++ String.join (o.choices.map (choice o))
  let paragraph := fun o : Opt ↦
    "  " ++ spellings o ++ "\n" ++ spaces 10 ++ o.summary true ++ choices o ++ "\n"
  about ++ ".\n\nSet GITHUB_TOKEN to raise the API rate limit.\n\n" ++ usage ++
    "\n\nOptions:\n" ++ "\n".intercalate (Opt.all.map paragraph)

end CreditRoll.CommandLine.Help
