import CreditRoll.Github.Status
import CreditRoll.Proofs.JsonWriter
import CreditRoll.Proofs.Utf8

namespace CreditRoll

namespace Text

theorem natural?_toDigits (n : Nat) : natural? (Nat.toDigits 10 n) = some n := by
  have hd : (Nat.toDigits 10 n).all Char.isDigit = true := by
    rw [List.all_eq_true]
    exact fun c hc ↦ Nat.isDigit_of_mem_toDigits (by decide) (by decide) hc
  have he : (Nat.toDigits 10 n).isEmpty = false := by simp
  simp only [natural?, he, hd, Bool.not_false, Bool.and_self, if_true]
  exact congrArg some Nat.ofDigitChars_ten_toDigits

theorem word64?_toDigits {n : Nat} (h : n ≤ word64Max) :
    word64? (Nat.toDigits 10 n) = some n := by
  rw [word64?, natural?_toDigits]
  simp [h]

end Text

namespace Json

open Token

theorem head_toDigits_ne {n : Nat} (hn : 0 < n) : (Nat.toDigits 10 n).head? ≠ some '0' := by
  induction n using Nat.strongRecOn with
  | ind n ih =>
    by_cases h : n < 10
    · rw [Nat.toDigits_of_lt_base h]
      simpa using Nat.ne_of_gt hn
    · have hi := ih (n / 10) (by omega) (by omega)
      obtain ⟨c, s, hs⟩ := List.exists_cons_of_ne_nil (Nat.toDigits_ne_nil (n := n / 10) (b := 10))
      rw [Nat.toDigits_of_base_le (by decide) (by omega), hs]
      rwa [hs] at hi

theorem isNumber_toString (n : Nat) : IsNumber (toString n).toList := by
  have hd : ∀ c ∈ Nat.toDigits 10 n, c.isDigit = true := fun c hc ↦
    Nat.isDigit_of_mem_toDigits (by decide) (by decide) hc
  have hw : IsWhole (Nat.toDigits 10 n) := by
    rcases Nat.eq_zero_or_pos n with rfl | hn
    · exact .zero
    · obtain ⟨c, s, hs⟩ := List.exists_cons_of_ne_nil (Nat.toDigits_ne_nil (n := n) (b := 10))
      have hz := head_toDigits_ne hn
      rw [hs] at hd hz ⊢
      exact .digits (fun hc ↦ hz (by rw [hc]; rfl)) ⟨List.cons_ne_nil _ _, hd⟩
  have hn := IsNumber.plain hw .absent .absent
  rwa [List.append_nil, List.append_nil, ← Nat.toList_repr] at hn

def ofTextOrNull : Option String → Json
  | some s => .ofText s
  | none => .null

theorem proper_ofMembers {members : List (String × Json)} (h : ∀ m ∈ members, Proper m.2) :
    Proper (.ofMembers members) :=
  .object (List.forall_mem_map.2 h)

theorem proper_ofTextOrNull (s : Option String) : Proper (.ofTextOrNull s) := by
  cases s with
  | none => exact .null
  | some s => exact .string

end Json

def Entry.json (entry : Entry) : Json :=
  .ofMembers [("login", .ofText entry.login), ("contributions", .ofNat entry.contributions),
    ("html_url", .ofTextOrNull entry.url)]

def Profile.json (profile : Profile) : Json :=
  .ofMembers [("name", .ofTextOrNull profile.name), ("html_url", .ofText profile.url)]

theorem Entry.proper_json (entry : Entry) : entry.json.Proper := by
  refine Json.proper_ofMembers ?_
  simp only [List.forall_mem_cons, List.not_mem_nil, false_imp_iff, implies_true, and_true]
  exact ⟨.string, .number (Json.isNumber_toString _), Json.proper_ofTextOrNull _⟩

theorem Profile.proper_json (profile : Profile) : profile.json.Proper := by
  refine Json.proper_ofMembers ?_
  simp only [List.forall_mem_cons, List.not_mem_nil, false_imp_iff, implies_true, and_true]
  exact ⟨Json.proper_ofTextOrNull _, .string⟩

theorem Entry.ofJson?_json {entry : Entry} (h : entry.contributions ≤ Text.word64Max) :
    ofJson? entry.json = some entry := by
  obtain ⟨login, contributions, url⟩ := entry
  cases url <;>
    simp [ofJson?, json, Json.ofMembers, Json.hasTextNames, Json.required?, Json.optional?,
      Json.valuesOf, Json.text?, Json.count?, Json.textOrNull?, Json.ofText, Json.ofNat,
      Json.ofTextOrNull, Text.word64?_toDigits h]

theorem Entry.mapM_ofJson? {entries : List Entry}
    (h : ∀ entry ∈ entries, entry.contributions ≤ Text.word64Max) :
    (entries.map json).mapM ofJson? = some entries :=
  mapM_map_eq_some fun entry he ↦ ofJson?_json (h entry he)

theorem Profile.ofJson?_json (profile : Profile) : ofJson? profile.json = some profile := by
  obtain ⟨name, url⟩ := profile
  cases name <;>
    simp [ofJson?, json, Json.ofMembers, Json.hasTextNames, Json.required?, Json.optional?,
      Json.valuesOf, Json.text?, Json.textOrNull?, Json.ofText, Json.ofTextOrNull]

namespace Github.Wire

open Json (IsText)

theorem ofSource?_scan {text : List Char} {v : Json} (h : IsText text v) :
    Json.ofSource? (Text.Utf8.scan (Text.Utf8.encode text)) = some v := by
  rw [Text.Utf8.scan_encode]
  exact Json.ofChars?_of_isText h

theorem page?_encode {text : List Char} {entries : List Entry}
    (h : IsText text (.array (entries.map Entry.json)))
    (hb : ∀ entry ∈ entries, entry.contributions ≤ Text.word64Max) :
    page? (Text.Utf8.encode text) = some entries := by
  simp only [page?, ofSource?_scan h, Entry.mapM_ofJson? hb]

theorem profile?_encode {text : List Char} {profile : Profile} (h : IsText text profile.json) :
    profile? (Text.Utf8.encode text) = some profile := by
  rw [profile?, ofSource?_scan h]
  exact profile.ofJson?_json

def refusal (explanation : String) : Json :=
  .ofMembers [("message", .ofText explanation)]

theorem proper_refusal (explanation : String) : (refusal explanation).Proper :=
  Json.proper_ofMembers (List.forall_mem_singleton.2 .string)

theorem errorMessage_of_isText {body : String} {explanation : String}
    (h : IsText body.toList (refusal explanation)) : errorMessage body = explanation := by
  rw [errorMessage, Json.ofChars?_of_isText h]
  simp [refusal, explanation?, Json.ofMembers, Json.hasTextNames, Json.required?, Json.valuesOf,
    Json.text?, Json.ofText]

end Github.Wire

theorem Github.Status.check_missing {r : Http.Response} {text : List Char} {explanation : String}
    (hs : r.status = 404) (hb : r.body = some (Text.Utf8.encode text))
    (h : Json.IsText text (Wire.refusal explanation)) :
    check r = .error (.api 404 explanation) := by
  have hl : isRateLimited 404 r.headers = false := by simp [isRateLimited]
  have hm : Wire.errorMessage (bodyText r) = explanation := by
    apply Wire.errorMessage_of_isText
    simpa only [bodyText, hb, Text.Utf8.decodeLossy_encode, String.toList_ofList] using h
  simp only [check, Http.Response.isSuccess, hs, hl, hm]
  rfl

end CreditRoll
