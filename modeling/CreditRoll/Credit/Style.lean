import CreditRoll.Choice
import CreditRoll.Credit

namespace CreditRoll

inductive Style where
  | link
  | role
  | plain
  deriving DecidableEq, Repr, Inhabited

namespace Style

instance : Choice Style where
  all := [link, role, plain]
  label
    | link => "rst-link"
    | role => "ghuser"
    | plain => "plain"
  summary
    | link => "reST hyperlink: * `Name <https://github.com/login>`_"
    | role => "Sphinx ghuser role: * :ghuser:`Name <login>`"
    | plain => "Bare list item: * Name"

def render : Style → Credit → String
  | link, c => "* `" ++ c.displayName ++ " <" ++ c.url ++ ">`_"
  | role, c => "* :ghuser:`" ++ c.displayName ++ " <" ++ c.login ++ ">`"
  | plain, c => "* " ++ c.displayName

end Style

end CreditRoll
