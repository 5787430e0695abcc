namespace CreditRoll.CommandLine.Plain

inductive Mode where
  | ground
  | escape
  | intermediate
  | control
  | label
  | device
  | ignored
  deriving DecidableEq, Repr

def isSpace (c : Char) : Bool :=
  c == '\t' || c == '\n' || c == '\x0C' || c == '\r'

def step (mode : Mode) (c : Char) : Mode × Bool :=
  let n := c.toNat
  if n == 0x1B then (.escape, false)
  else if n == 0x18 || n == 0x1A then (.ground, false)
  else
    match mode with
    | .ground => (.ground, (0x20 ≤ n && n != 0x7F) || isSpace c)
    | .escape =>
      if n < 0x20 then (.escape, isSpace c)
      else if n < 0x30 then (.intermediate, false)
      else if c == '[' then (.control, false)
      else if c == ']' then (.label, false)
      else if c == 'P' then (.device, false)
      else if c == 'X' || c == '^' || c == '_' then (.ignored, false)
      else if n < 0x7F then (.ground, false)
      else (.escape, false)
    | .intermediate =>
      if n < 0x20 then (.intermediate, isSpace c)
      else if 0x30 ≤ n && n < 0x7F then (.ground, false)
      else (.intermediate, false)
    | .control =>
      if n < 0x20 then (.control, isSpace c)
      else if 0x40 ≤ n && n < 0x7F then (.ground, false)
      else (.control, false)
    | .label => (if n == 0x07 then .ground else .label, false)
    | .device => (if n == 0x9C then .ground else .device, false)
    | .ignored => (if n == 0x9C then .ground else .ignored, false)

/-- The text without control sequences and control characters. A character that shows ends the
sequence it stands in. -/
def textFrom (mode : Mode) : List Char → List Char
  | [] => []
  | c :: s =>
    let (next, shows) := step mode c
    if shows then c :: textFrom .ground s else textFrom next s

def text (s : List Char) : List Char :=
  textFrom .ground s

end CreditRoll.CommandLine.Plain
