import CreditRoll.Credit.Style
import CreditRoll.Github.Error
import CreditRoll.Text.Utf8

namespace CreditRoll

structure Sink where
  room : Nat
  bytes : List UInt8

namespace Sink

def put (s : Sink) (more : List UInt8) : Except Sink Sink :=
  if more.length ≤ s.room then .ok ⟨s.room - more.length, s.bytes ++ more⟩
  else .error ⟨0, s.bytes ++ more.take s.room⟩

end Sink

namespace Report

def lines (style : Style) (credits : List Credit) : List String :=
  credits.map style.render

def text (style : Style) (credits : List Credit) : String :=
  String.join ((lines style credits).map (· ++ "\n"))

def writeLine (s : Sink) (line : String) : Except Sink Sink := do
  let s ← s.put (Text.Utf8.encode line.toList)
  s.put (Text.Utf8.encode ['\n'])

def write (s : Sink) (style : Style) (credits : List Credit) : Except Sink Sink :=
  (lines style credits).foldlM writeLine s

/-- Writes the report, or fails. What went into the sink is in it all the same. -/
def deliver (s : Sink) (style : Style) (credits : List Credit) : Except Failure Unit × Sink :=
  match write s style credits with
  | .ok s => (.ok (), s)
  | .error s => (.error .outputFull, s)

end Report

end CreditRoll
