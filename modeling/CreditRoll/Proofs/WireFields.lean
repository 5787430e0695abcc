import CreditRoll.Proofs.Wire
import Mathlib.Data.List.Forall2

namespace CreditRoll

theorem Text.natural?_eq_some_iff {s : List Char} {n : Nat} :
    natural? s = some n ↔ Json.Token.IsDigits s ∧ Nat.ofDigitChars 10 s 0 = n := by
  have hd : (!s.isEmpty && s.all Char.isDigit) = true ↔ Json.Token.IsDigits s := by
    simp [Json.Token.IsDigits]
  rw [natural?, ← hd, Option.ite_none_right_eq_some, Option.some.injEq]
  rfl

theorem Text.word64?_eq_some_iff {s : List Char} {n : Nat} :
    word64? s = some n ↔
      (Json.Token.IsDigits s ∧ Nat.ofDigitChars 10 s 0 = n) ∧ n ≤ word64Max := by
  rw [word64?, Option.filter_eq_some_iff, natural?_eq_some_iff, decide_eq_true_eq]

namespace Json

def Once (name : String) (v : Json) (members : List (String × Json)) : Prop :=
  (name, v) ∈ members ∧ (members.map (·.1)).count name = 1

def Absent (name : String) (members : List (String × Json)) : Prop :=
  name ∉ members.map (·.1)

structure IsCount (lexeme : String) (n : Nat) : Prop where
  digits : Token.IsDigits lexeme.toList
  value : Nat.ofDigitChars 10 lexeme.toList 0 = n
  fits : n < Nat.pow 2 64

def named (members : List (String × Json)) : List (Option String × Json) :=
  members.map fun m ↦ (some m.1, m.2)

theorem hasTextNames_named (members : List (String × Json)) :
    hasTextNames (named members) = true := by
  simp [hasTextNames, named]

theorem valuesOf_named (name : String) (members : List (String × Json)) :
    valuesOf name (named members) = (members.filter (·.1 == name)).map (·.2) := by
  simp only [valuesOf, named, List.filter_map, List.map_map]
  rfl

theorem valuesOf_eq_nil_iff {name : String} {members : List (String × Json)} :
    valuesOf name (named members) = [] ↔ Absent name members := by
  rw [valuesOf_named, List.map_eq_nil_iff, List.filter_eq_nil_iff, Absent, List.mem_map]
  simp only [beq_iff_eq, not_exists, not_and]

theorem count_eq_length_valuesOf (name : String) (members : List (String × Json)) :
    (members.map (·.1)).count name = (valuesOf name (named members)).length := by
  rw [valuesOf_named, List.length_map, List.count, List.countP_map, List.countP_eq_length_filter]
  rfl

theorem mem_valuesOf_iff {name : String} {v : Json} {members : List (String × Json)} :
    v ∈ valuesOf name (named members) ↔ (name, v) ∈ members := by
  rw [valuesOf_named]
  simp

theorem valuesOf_eq_singleton_iff {name : String} {v : Json} {members : List (String × Json)} :
    valuesOf name (named members) = [v] ↔ Once name v members := by
  rw [Once, ← mem_valuesOf_iff, count_eq_length_valuesOf, List.length_eq_one_iff]
  constructor
  · intro h
    rw [h]
    exact ⟨List.mem_singleton_self v, v, rfl⟩
  · rintro ⟨hm, w, hw⟩
    rw [hw, List.mem_singleton] at hm
    rw [hw, hm]

variable {α : Type} {name : String} {read? : Json → Option α} {members : List (String × Json)}
  {a : α}

theorem required?_eq_some_iff :
    required? name read? (named members) = some a ↔
      ∃ v, Once name v members ∧ read? v = some a := by
  simp only [← valuesOf_eq_singleton_iff]
  rw [required?]
  split
  · next v hv => simp [hv]
  · next hv =>
    constructor
    · intro h
      cases h
    · rintro ⟨v, hs, -⟩
      exact absurd hs (hv v)

theorem optional?_eq_some_iff {default : α} :
    optional? name read? default (named members) = some a ↔
      Absent name members ∧ a = default ∨ ∃ v, Once name v members ∧ read? v = some a := by
  simp only [← valuesOf_eq_singleton_iff, ← valuesOf_eq_nil_iff]
  rw [optional?]
  split
  · next hv => simp [hv, eq_comm]
  · next v hv => simp [hv]
  · next hn hs =>
    constructor
    · intro h
      cases h
    · rintro (⟨h, -⟩ | ⟨v, h, -⟩)
      · exact absurd h hn
      · exact absurd h (hs v)

theorem text?_eq_some_iff {v : Json} {s : String} : v.text? = some s ↔ v = .ofText s := by
  cases v <;> simp [text?, ofText]

theorem textOrNull?_eq_some_iff {v : Json} {s : Option String} :
    v.textOrNull? = some s ↔ v = .ofTextOrNull s := by
  rcases v with _ | _ | _ | (_ | _) | _ | _ <;> cases s <;>
    simp [textOrNull?, ofTextOrNull, ofText]

theorem count?_eq_some_iff {v : Json} {n : Nat} :
    v.count? = some n ↔ ∃ lexeme, v = .number lexeme ∧ IsCount lexeme n := by
  have hm (n : Nat) : n ≤ Text.word64Max ↔ n < Nat.pow 2 64 := by
    exact Nat.le_sub_one_iff_lt (by decide)
  constructor
  · intro h
    cases v with
    | number lexeme =>
      obtain ⟨⟨hd, hn⟩, hf⟩ := Text.word64?_eq_some_iff.1 h
      exact ⟨lexeme, rfl, hd, hn, (hm n).1 hf⟩
    | _ => cases h
  · rintro ⟨lexeme, rfl, hd, hn, hf⟩
    exact Text.word64?_eq_some_iff.2 ⟨⟨hd, hn⟩, (hm n).2 hf⟩

end Json

open Json (Once Absent IsCount named)

/-- A text, or else `null` or no member of this name at all. -/
def Json.Maybe (name : String) (s : Option String) (members : List (String × Json)) : Prop :=
  Absent name members ∧ s = none ∨ Once name (.ofTextOrNull s) members

/-- The members of an object that spells an entry: each field once, in any order, and any others. -/
structure Entry.SpelledBy (members : List (String × Json)) (entry : Entry) : Prop where
  login : Once "login" (.ofText entry.login) members
  contributions : Absent "contributions" members ∧ entry.contributions = 0 ∨
    ∃ lexeme, Once "contributions" (.number lexeme) members ∧ IsCount lexeme entry.contributions
  url : Json.Maybe "html_url" entry.url members

structure Profile.SpelledBy (members : List (String × Json)) (profile : Profile) : Prop where
  name : Json.Maybe "name" profile.name members
  url : Once "html_url" (.ofText profile.url) members

namespace Json

theorem required?_text {name : String} {members : List (String × Json)} {s : String} :
    required? name text? (named members) = some s ↔ Once name (.ofText s) members := by
  simp only [required?_eq_some_iff, text?_eq_some_iff, exists_eq_right]

theorem optional?_textOrNull {name : String} {members : List (String × Json)} {s : Option String} :
    optional? name textOrNull? none (named members) = some s ↔ Maybe name s members := by
  simp only [optional?_eq_some_iff, textOrNull?_eq_some_iff, exists_eq_right, Maybe]

theorem optional?_count {name : String} {members : List (String × Json)} {n : Nat} :
    optional? name count? 0 (named members) = some n ↔ Absent name members ∧ n = 0 ∨
      ∃ lexeme, Once name (.number lexeme) members ∧ IsCount lexeme n := by
  rw [optional?_eq_some_iff]
  simp only [count?_eq_some_iff]
  constructor
  · rintro (h | ⟨v, hv, lexeme, rfl, hc⟩)
    · exact .inl h
    · exact .inr ⟨lexeme, hv, hc⟩
  · rintro (h | ⟨lexeme, hv, hc⟩)
    · exact .inl h
    · exact .inr ⟨_, hv, lexeme, rfl, hc⟩

theorem mapM_eq_some_iff {α β : Type} {f : α → Option β} {xs : List α} {ys : List β} :
    xs.mapM f = some ys ↔ List.Forall₂ (fun x y ↦ f x = some y) xs ys := by
  induction xs generalizing ys with
  | nil => simp [eq_comm]
  | cons x xs ih =>
    simp only [List.mapM_cons, Option.bind_eq_bind, Option.bind_eq_some_iff, Option.pure_def,
      Option.some.injEq, List.forall₂_cons_left_iff, ih]
    constructor
    · rintro ⟨y, hy, ys, hys, rfl⟩
      exact ⟨y, ys, hy, hys, rfl⟩
    · rintro ⟨y, ys, hy, hys, rfl⟩
      exact ⟨y, hy, ys, hys, rfl⟩

theorem exists_forall₂_iff {α β : Type} {R : α → β → Prop} {xs : List α} :
    (∃ ys, List.Forall₂ R xs ys) ↔ ∀ x ∈ xs, ∃ y, R x y := by
  induction xs with
  | nil => simp
  | cons x xs ih =>
    simp only [List.forall₂_cons_left_iff, List.forall_mem_cons, ← ih]
    constructor
    · rintro ⟨_, y, ys, hy, hys, rfl⟩
      exact ⟨⟨y, hy⟩, ys, hys⟩
    · rintro ⟨⟨y, hy⟩, ys, hys⟩
      exact ⟨_, y, ys, hy, hys, rfl⟩

end Json

theorem Entry.ofJson?_eq_some_iff {members : List (String × Json)} {entry : Entry} :
    ofJson? (.ofMembers members) = some entry ↔ SpelledBy members entry := by
  have hm : Json.ofMembers members = .object (named members) := rfl
  simp only [hm, ofJson?, Json.hasTextNames_named, guard_true, Option.bind_eq_bind,
    Option.bind_eq_some_iff, Option.pure_def, Option.some.injEq, Json.required?_text,
    Json.optional?_textOrNull, Json.optional?_count, true_and, exists_const]
  constructor
  · rintro ⟨login, hl, contributions, hc, url, hu, rfl⟩
    exact ⟨hl, hc, hu⟩
  · intro h
    exact ⟨_, h.login, _, h.contributions, _, h.url, rfl⟩

theorem Profile.ofJson?_eq_some_iff {members : List (String × Json)} {profile : Profile} :
    ofJson? (.ofMembers members) = some profile ↔ SpelledBy members profile := by
  have hm : Json.ofMembers members = .object (named members) := rfl
  simp only [hm, ofJson?, Json.hasTextNames_named, guard_true, Option.bind_eq_bind,
    Option.bind_eq_some_iff, Option.pure_def, Option.some.injEq, Json.required?_text,
    Json.optional?_textOrNull, true_and, exists_const]
  constructor
  · rintro ⟨name, hn, url, hu, rfl⟩
    exact ⟨hn, hu⟩
  · intro h
    exact ⟨_, h.name, _, h.url, rfl⟩

namespace Github.Wire

open Json (IsText)

theorem page?_eq_some_iff {text : List Char} {objects : List (List (String × Json))}
    (h : IsText text (.array (objects.map .ofMembers))) (entries : List Entry) :
    page? (Text.Utf8.encode text) = some entries ↔
      List.Forall₂ Entry.SpelledBy objects entries := by
  simp only [page?, ofSource?_scan h, List.mapM_map, Json.mapM_eq_some_iff, Function.comp_apply,
    Entry.ofJson?_eq_some_iff]

theorem page?_eq_none_iff {text : List Char} {objects : List (List (String × Json))}
    (h : IsText text (.array (objects.map .ofMembers))) :
    page? (Text.Utf8.encode text) = none ↔
      ∃ members ∈ objects, ∀ entry, ¬ Entry.SpelledBy members entry := by
  have he : (∃ entries, page? (Text.Utf8.encode text) = some entries) ↔
      ∀ members ∈ objects, ∃ entry, Entry.SpelledBy members entry := by
    simp only [page?_eq_some_iff h, Json.exists_forall₂_iff]
  rw [Option.eq_none_iff_forall_ne_some, ← not_exists, he]
  simp only [not_forall, not_exists, exists_prop]

theorem profile?_eq_some_iff {text : List Char} {members : List (String × Json)}
    (h : IsText text (.ofMembers members)) (profile : Profile) :
    profile? (Text.Utf8.encode text) = some profile ↔ Profile.SpelledBy members profile := by
  rw [profile?, ofSource?_scan h]
  exact Profile.ofJson?_eq_some_iff

/-- A text that is an array of objects is read as a page if and only if each of them spells an
entry, and then as these entries in this order. One object that spells none makes the page
unreadable. A text that is an object is read as a profile if and only if it spells that profile. -/
theorem decodes_spelled (text : List Char) :
    (∀ objects : List (List (String × Json)), IsText text (.array (objects.map .ofMembers)) →
      (∀ entries, page? (Text.Utf8.encode text) = some entries ↔
        List.Forall₂ Entry.SpelledBy objects entries) ∧
      (page? (Text.Utf8.encode text) = none ↔
        ∃ members ∈ objects, ∀ entry, ¬ Entry.SpelledBy members entry)) ∧
    ∀ members : List (String × Json), IsText text (.ofMembers members) →
      (∀ profile, profile? (Text.Utf8.encode text) = some profile ↔
        Profile.SpelledBy members profile) := by
  refine ⟨fun objects h ↦ ⟨page?_eq_some_iff h, page?_eq_none_iff h⟩, fun members h ↦ ?_⟩
  exact profile?_eq_some_iff h

/-- The largest count, `null` for an address, a member that nothing reads, and a login that is given
twice. -/
theorem decodes_spelled_two_entries :
    let node := Json.array [.object [(some "login", .null), (none, .bool true)], .array []]
    let mona := [("node", node), ("contributions", .number "18446744073709551615"),
      ("login", .ofText "mo\"na")]
    let hubot := [("html_url", .null), ("login", .ofText "hubot")]
    let profile := [("html_url", .ofText "h"), ("name", .null)]
    let twice := [("login", .ofText "mona"), ("login", .ofText "mona")]
    let page (objects : List (List (String × Json))) := Json.array (objects.map .ofMembers)
    let text (v : Json) := Text.Utf8.encode (Json.write v)
    (page [mona, hubot]).Proper ∧ (page [mona, twice]).Proper ∧ (Json.ofMembers profile).Proper ∧
      page? (text (page [mona, hubot])) =
        some [⟨"mo\"na", 18446744073709551615, none⟩, ⟨"hubot", 0, none⟩] ∧
      page? (text (page [mona, twice])) = none ∧
      profile? (text (.ofMembers profile)) = some ⟨none, "h"⟩ := by
  intro node mona hubot profile twice page text
  have hpair {P : Json → Prop} {v w : Json} (hv : P v) (hw : P w) : ∀ x ∈ [v, w], P x :=
    List.forall_mem_cons.2 ⟨hv, List.forall_mem_singleton.2 hw⟩
  have hobject {a b : String} {v w : Json} (hv : v.Proper) (hw : w.Proper) :
      (Json.ofMembers [(a, v), (b, w)]).Proper :=
    Json.proper_ofMembers (List.forall_mem_cons.2 ⟨hv, List.forall_mem_singleton.2 hw⟩)
  have hnode : node.Proper := by
    refine .array (hpair (.object ?_) (.array (by simp)))
    exact List.forall_mem_cons.2 ⟨.null, List.forall_mem_singleton.2 .bool⟩
  have hlexeme : Json.Token.IsNumber "18446744073709551615".toList :=
    Json.isNumber_toString 18446744073709551615
  have hmona : (Json.ofMembers mona).Proper := by
    apply Json.proper_ofMembers
    exact List.forall_mem_cons.2
      ⟨hnode, List.forall_mem_cons.2 ⟨.number hlexeme, List.forall_mem_singleton.2 .string⟩⟩
  have hpage : (page [mona, hubot]).Proper := .array (hpair hmona (hobject .null .string))
  have hbroken : (page [mona, twice]).Proper := .array (hpair hmona (hobject .string .string))
  refine ⟨hpage, hbroken, hobject .string .null, ?_, ?_, ?_⟩
  · have hd := (decodes_spelled _).1 [mona, hubot] (Json.isText_write hpage)
    apply (hd.1 _).2
    refine .cons ⟨?_, .inr ⟨"18446744073709551615", ?_, ?_⟩, .inl ⟨?_, rfl⟩⟩
      (.cons ⟨?_, .inl ⟨?_, rfl⟩, .inr ?_⟩ .nil)
    · exact ⟨by simp [mona], by decide⟩
    · exact ⟨by simp [mona], by decide⟩
    · exact ⟨⟨by decide, by simp⟩, by decide, by decide⟩
    · simp [Absent, mona]
    · exact ⟨by simp [hubot], by decide⟩
    · simp [Absent, hubot]
    · exact ⟨by simp [hubot, Json.ofTextOrNull], by decide⟩
  · have hd := (decodes_spelled _).1 [mona, twice] (Json.isText_write hbroken)
    refine hd.2.2 ⟨twice, by simp, fun entry he ↦ ?_⟩
    exact absurd he.login.2 (by decide)
  · have hd := (decodes_spelled _).2 profile (Json.isText_write (hobject .string .null))
    apply (hd _).2
    exact ⟨.inr ⟨by simp [profile, Json.ofTextOrNull], by decide⟩, by simp [profile], by decide⟩

end Github.Wire

end CreditRoll
