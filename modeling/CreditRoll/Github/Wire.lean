import CreditRoll.Credit
import CreditRoll.Json.Fields
import CreditRoll.Json.Reader
import CreditRoll.Text.Utf8

namespace CreditRoll

/-- Every record may also be given as the array of its members in a fixed order, where members with
a default may be missing at the end. -/
def Entry.ofJson? : Json → Option Entry
  | .object ms => do
    guard (Json.hasTextNames ms)
    return {
      login := ← Json.required? "login" Json.text? ms
      contributions := ← Json.optional? "contributions" Json.count? 0 ms
      url := ← Json.optional? "html_url" Json.textOrNull? none ms }
  | .array [login] => do
    return ⟨← login.text?, 0, none⟩
  | .array [login, contributions] => do
    return ⟨← login.text?, ← contributions.count?, none⟩
  | .array [login, contributions, url] => do
    return ⟨← login.text?, ← contributions.count?, ← url.textOrNull?⟩
  | _ => none

def Profile.ofJson? : Json → Option Profile
  | .object ms => do
    guard (Json.hasTextNames ms)
    return {
      name := ← Json.optional? "name" Json.textOrNull? none ms
      url := ← Json.required? "html_url" Json.text? ms }
  | .array [name, url] => do
    return ⟨← name.textOrNull?, ← url.text?⟩
  | _ => none

namespace Github.Wire

def page? (body : List UInt8) : Option (List Entry) :=
  match Json.ofSource? (Text.Utf8.scan body) with
  | some (.array items) => items.mapM Entry.ofJson?
  | _ => none

def profile? (body : List UInt8) : Option Profile :=
  Json.ofSource? (Text.Utf8.scan body) >>= Profile.ofJson?

def explanation? : Json → Option String
  | .object ms => do
    guard (Json.hasTextNames ms)
    Json.required? "message" Json.text? ms
  | .array [message] => message.text?
  | _ => none

def errorMessage (body : String) : String :=
  (Json.ofChars? body.toList >>= explanation?).getD body.trimBlank

end Github.Wire

end CreditRoll
