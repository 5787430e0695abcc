import CreditRoll.CommandLine.Help
import CreditRoll.CommandLine.Plain
import CreditRoll.Github.Error

namespace CreditRoll.CommandLine

inductive Stop where
  | shortHelp
  | longHelp
  | version
  | unknownArgument (written : String)
  | valueMissing (o : Opt)
  | valueUnexpected (o : Opt) (value : String)
  | repeated (o : Opt)
  | unknownChoice (o : Opt) (value : String)
  | malformedRepository (value : String)
  | conflict (first second : Opt)
  | notAlone (o : Opt)
  deriving DecidableEq, Repr

namespace Stop

def isError : Stop → Bool
  | shortHelp | longHelp | version => false
  | _ => true

def complaint : Stop → String
  | unknownArgument written => "unexpected argument '" ++ written ++ "' found"
  | valueMissing o => "a value is required for '" ++ o.display ++ "' but none was supplied"
  | valueUnexpected o value =>
    "unexpected value '" ++ value ++ "' for '" ++ o.display ++ "' found; no more were expected"
  | repeated o => "the argument '" ++ o.display ++ "' cannot be used multiple times"
  | unknownChoice o value => "invalid value '" ++ value ++ "' for '" ++ o.display ++ "'"
  | malformedRepository value =>
    "invalid value '" ++ value ++ "' for '" ++ Opt.repo.display ++ "': " ++
      (Failure.invalidRepository value).message
  | conflict first second =>
    "the argument '" ++ first.display ++ "' cannot be used with '" ++ second.display ++ "'"
  | notAlone o =>
    "the argument '" ++ o.display ++
      "' cannot be used with one or more of the other specified arguments"
  | shortHelp | longHelp | version => ""

/-- What is printed: all of the information asked for, or the first line of the complaint, which
shows arguments without their control sequences. -/
def message : Stop → String
  | shortHelp => Help.short
  | longHelp => Help.long
  | version => Help.version
  | stop =>
    String.ofList ((Plain.text ("error: " ++ stop.complaint).toList).takeWhile (· != '\n'))

def exitCode (stop : Stop) : Nat :=
  if stop.isError then 2 else 0

end Stop

end CreditRoll.CommandLine
