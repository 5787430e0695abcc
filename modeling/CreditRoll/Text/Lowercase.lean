import CreditRoll.Text.CaseTable

namespace CreditRoll.Text

namespace Case

def isCased (c : Char) : Bool :=
  casedRanges.has c

def isIgnorable (c : Char) : Bool :=
  ignorableRanges.has c

/-- The full lowercase mapping of one character out of context. Only the capital `I` with a dot
above has two characters as its image. -/
def lowerChar (c : Char) : List Char :=
  if c = 'İ' then ['i', '\u0307']
  else match lowerRuns.findSome? (·.map? c.toNat) with
    | some n => [Char.ofNat n]
    | none => [c]

def startsCased (s : List Char) : Bool :=
  (s.dropWhile isIgnorable).head?.any isCased

/-- `afterCased` says that the last character before `s` that is not ignorable is cased. A capital
sigma that ends a word becomes the final small sigma. -/
def lowerFrom (afterCased : Bool) : List Char → List Char
  | [] => []
  | c :: s =>
    let image :=
      if c = 'Σ' then [if afterCased && !startsCased s then 'ς' else 'σ'] else lowerChar c
    image ++ lowerFrom (if isIgnorable c then afterCased else isCased c) s

end Case

def lowercase (s : List Char) : List Char :=
  Case.lowerFrom false s

end CreditRoll.Text
