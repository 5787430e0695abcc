import CreditRoll.Credit.Order
import CreditRoll.Credit.Style

namespace CreditRoll

structure Config where
  repository : String := "dropwizard/dropwizard"
  style : Style := .link
  order : Order := .listed
  apiUrl : String := "https://api.github.com"
  deriving DecidableEq, Repr, Inhabited

namespace Config

inductive Field where
  | repository
  | style
  | order
  | apiUrl
  deriving DecidableEq, Repr

instance : Choice Field where
  all := [.repository, .style, .order, .apiUrl]
  label
    | .repository => "repo"
    | .style => "format"
    | .order => "order"
    | .apiUrl => "api_url"
  summary
    | .repository => "Repository to list contributors for, as \"owner/name\"."
    | .style => "Output line format (default: \"rst-link\")."
    | .order => "Output order (default: \"api\")."
    | .apiUrl => "GitHub REST API base URL (default: \"https://api.github.com\")."

end Config

end CreditRoll
