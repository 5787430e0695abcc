import CreditRoll.Http.Header

namespace CreditRoll.Http.Link

/-- The target in angle brackets that a link begins with, and the parameters after it. A link with a
line break among its parameters is none. -/
def split? (link : List Char) : Option (List Char × List Char) :=
  match link.dropWhile Text.isBlank with
  | '<' :: rest =>
    match rest.dropWhile (· != '>') with
    | '>' :: params =>
      if params.contains '\n' then none else some (rest.takeWhile (· != '>'), params)
    | _ => none
  | _ => none

def isNextRelation (param : List Char) : Bool :=
  match ['r', 'e', 'l', '='].isPrefixOf? (Text.trim param) with
  | some value => (Text.words (Text.strip (· == '"') value)).contains ['n', 'e', 'x', 't']
  | none => false

def nextOf? (link : List Char) : Option (List Char) := do
  let (target, params) ← split? link
  guard ((params.splitOn ';').any isNextRelation)
  return target

/-- The target of the first link that leads to the next page. Links are separated by commas, and the
parameters of a link by semicolons. -/
def next? (value : List Char) : Option (List Char) :=
  (value.splitOn ',').findSome? nextOf?

end Link

namespace Headers

def nextPage? (headers : Headers) : Option String := do
  return String.ofList (← Link.next? (← headers.text? "link"))

end CreditRoll.Http.Headers
