import CreditRoll.Files
import CreditRoll.Text.Blank
import CreditRoll.Text.Utf8

namespace CreditRoll

abbrev Variables := String → Option (List UInt8)

structure Environment where
  token : Option String
  log : Option String
  configDir : Option String
  deriving DecidableEq, Repr

namespace Environment

def text? (v : Variables) (name : String) : Option String :=
  (v name >>= Text.Utf8.decode?).map String.ofList

def notBlank? (v : Variables) (name : String) : Option String :=
  (text? v name).filter (!·.isAllBlank)

def notEmpty? (v : Variables) (name : String) : Option String :=
  (text? v name).filter (!·.isEmpty)

def configDir? (v : Variables) : Option String :=
  (notEmpty? v "XDG_CONFIG_HOME").or
    ((notEmpty? v "HOME").map (Path.join · ".config"))

def read (v : Variables) : Environment where
  token := (notBlank? v "GITHUB_TOKEN").map String.trimBlank
  log := notBlank? v "GHCREDITS_LOG"
  configDir := configDir? v

def ownConfigDir (e : Environment) : Option String :=
  e.configDir.map (Path.join · "ghcredits")

end Environment

end CreditRoll
