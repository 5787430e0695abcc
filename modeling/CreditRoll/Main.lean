import CreditRoll.Http.Transport
import CreditRoll.Program

namespace CreditRoll

def readFile (path : String) : IO Reading := do
  try
    return .content (← IO.FS.readBinFile path).toList
  catch
    | .noFileOrDirectory .. => return .absent
    | .inappropriateType _ 21 _ => return .failed .isDirectory
    | .inappropriateType .. => return .failed .notDirectory
    | .permissionDenied .. => return .failed (.other "Permission denied (os error 13)")
    | e => return .failed (.other (toString e))

def readFiles (paths : List String) : IO Files := do
  let read ← paths.mapM fun path ↦ return (path, ← readFile path)
  return fun path ↦ (read.lookup path).getD .absent

def readVariables (names : List String) : IO Variables := do
  let read ← names.mapM fun name ↦ return (name, ← IO.getEnv name)
  return fun name ↦ ((read.lookup name).join).map (·.toUTF8.toList)

/-- Runs the program. No connection to the service is at hand, so that every request fails. -/
def runProgram (words : List String) : IO UInt32 := do
  let v ← readVariables ["GITHUB_TOKEN", "GHCREDITS_LOG", "XDG_CONFIG_HOME", "HOME"]
  let dir := (Environment.read v).ownConfigDir
  let files ← readFiles ((dir.map Config.candidates).getD [])
  let outcome := Program.execute words v files (.start .unreachable)
  IO.print outcome.output
  outcome.complaints.forM fun line ↦ IO.eprintln line
  return outcome.exitCode.toUInt32

end CreditRoll

def main (words : List String) : IO UInt32 :=
  CreditRoll.runProgram words
