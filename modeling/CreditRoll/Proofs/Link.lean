import CreditRoll.Http.Link
import Mathlib.Data.Option.Basic

namespace CreditRoll.Http

namespace Link

theorem split?_bracketed {target params : List Char} (ht : '>' ∉ target) (hp : '\n' ∉ params) :
    split? ('<' :: (target ++ '>' :: params)) = some (target, params) := by
  have ht' : ∀ c ∈ target, (c != '>') = true := fun c hc ↦
    bne_iff_ne.2 fun he ↦ ht (he ▸ hc)
  have hd : (target ++ '>' :: params).dropWhile (· != '>') = '>' :: params := by
    rw [List.dropWhile_append_of_pos ht']
    rfl
  have ht : (target ++ '>' :: params).takeWhile (· != '>') = target := by
    rw [List.takeWhile_append_of_pos ht']
    exact List.append_nil _
  have hn : params.contains '\n' = false := by simpa using hp
  have hb : ('<' :: (target ++ '>' :: params)).dropWhile Text.isBlank =
      '<' :: (target ++ '>' :: params) := rfl
  rw [split?, hb]
  simp only [hd, ht, hn]
  rfl

theorem nextOf?_space (link : List Char) : nextOf? (' ' :: link) = nextOf? link := by
  have hd : (' ' :: link).dropWhile Text.isBlank = link.dropWhile Text.isBlank := rfl
  simp only [nextOf?, split?, hd]

theorem intercalate_comma_space (s : List Char) (ss : List (List Char)) :
    [',', ' '].intercalate (s :: ss) = [','].intercalate (s :: ss.map (' ' :: ·)) := by
  have hc (s : List Char) (ss : List (List Char)) :
      [','].intercalate ((' ' :: s) :: ss) = ' ' :: [','].intercalate (s :: ss) := by
    cases ss <;> simp [List.intercalate_cons_cons]
  induction ss generalizing s with
  | nil => rfl
  | cons s' ss ih =>
    rw [List.intercalate_cons_cons, ih, List.map_cons, List.intercalate_cons_cons, hc,
      List.append_assoc, List.append_assoc]
    rfl

/-- Links without commas of their own are told apart again. -/
theorem next?_intercalate {links : List (List Char)} (h : ∀ link ∈ links, ',' ∉ link) :
    next? ([',', ' '].intercalate links) = links.findSome? nextOf? := by
  cases links with
  | nil => rfl
  | cons link links =>
    obtain ⟨hl, hs⟩ := List.forall_mem_cons.1 h
    have hs : ∀ t ∈ link :: links.map (' ' :: ·), ',' ∉ t := by
      refine List.forall_mem_cons.2 ⟨hl, fun t ht ↦ ?_⟩
      obtain ⟨s, hm, rfl⟩ := List.mem_map.1 ht
      simpa using hs s hm
    rw [intercalate_comma_space, next?, List.splitOn_intercalate ',' hs (List.cons_ne_nil _ _)]
    simp [List.findSome?_cons, List.findSome?_map, Function.comp_def, nextOf?_space]

end Link

inductive Relation where
  | prev
  | next
  | first
  | last
  deriving DecidableEq, Repr

def Relation.name : Relation → List Char
  | prev => "prev".toList
  | next => "next".toList
  | first => "first".toList
  | last => "last".toList

structure PageLink where
  relation : Relation
  target : String
  deriving DecidableEq, Repr

namespace PageLink

def params (relation : Relation) : List Char :=
  "; rel=\"".toList ++ relation.name ++ ['"']

def text (l : PageLink) : List Char :=
  '<' :: (l.target.toList ++ '>' :: params l.relation)

def value (links : List PageLink) : String :=
  String.ofList ([',', ' '].intercalate (links.map text))

def next? (links : List PageLink) : Option String :=
  (links.find? (·.relation == .next)).map (·.target)

/-- A target as addresses are written, in plain ASCII and without the characters that end a target
or a link. -/
def IsTarget (target : String) : Prop :=
  ∀ c ∈ target.toList, Headers.isReadable c = true ∧ c ≠ ',' ∧ c ≠ '>'

instance : DecidablePred IsTarget := fun target ↦ List.decidableBAll _ target.toList

theorem nextOf?_params (relation : Relation) :
    ((params relation).splitOn ';').any Link.isNextRelation = (relation == .next) := by
  cases relation <;> decide

theorem split?_text {l : PageLink} (h : IsTarget l.target) :
    Link.split? l.text = some (l.target.toList, params l.relation) := by
  refine Link.split?_bracketed (fun hm ↦ (h _ hm).2.2 rfl) ?_
  cases l.relation <;> decide

theorem nextOf?_text {l : PageLink} (h : IsTarget l.target) :
    Link.nextOf? l.text = if l.relation == .next then some l.target.toList else none := by
  rw [Link.nextOf?, split?_text h]
  simp only [Option.bind_eq_bind, Option.bind_some, nextOf?_params]
  cases l.relation <;> rfl

theorem comma_notMem_text {l : PageLink} (h : IsTarget l.target) : ',' ∉ l.text := by
  have hp : ',' ∉ '>' :: params l.relation := by
    cases l.relation <;> decide
  intro hm
  rcases List.mem_cons.1 hm with hm | hm
  · cases hm
  · rcases List.mem_append.1 hm with hm | hm
    · exact (h _ hm).2.1 rfl
    · exact hp hm

theorem findSome?_nextOf? {links : List PageLink} (h : ∀ l ∈ links, IsTarget l.target) :
    links.findSome? (fun l ↦ Link.nextOf? l.text) = (next? links).map (·.toList) := by
  induction links with
  | nil => rfl
  | cons l links ih =>
    obtain ⟨hl, hs⟩ := List.forall_mem_cons.1 h
    rw [List.findSome?_cons, nextOf?_text hl, ih hs, next?, next?, List.find?_cons]
    cases l.relation == .next <;> rfl

theorem next?_value {links : List PageLink} (h : ∀ l ∈ links, IsTarget l.target) :
    Link.next? (value links).toList = (next? links).map (·.toList) := by
  have hs : ∀ t ∈ links.map text, ',' ∉ t := fun t ht ↦ by
    obtain ⟨l, hl, rfl⟩ := List.mem_map.1 ht
    exact comma_notMem_text (h l hl)
  rw [value, String.toList_ofList, Link.next?_intercalate hs, List.findSome?_map,
    ← findSome?_nextOf? h]
  rfl

theorem isReadable_value {links : List PageLink} (h : ∀ l ∈ links, IsTarget l.target) :
    (value links).toList.all Headers.isReadable = true := by
  have ht {l : PageLink} (hl : IsTarget l.target) : ∀ c ∈ l.text, Headers.isReadable c = true := by
    have hp : ('>' :: params l.relation).all Headers.isReadable = true := by
      cases l.relation <;> decide
    refine List.forall_mem_cons.2 ⟨by decide, fun c hc ↦ ?_⟩
    rcases List.mem_append.1 hc with hc | hc
    · exact (hl c hc).1
    · exact List.all_eq_true.1 hp c hc
  have hc' : [',', ' '].all Headers.isReadable = true := by decide
  rw [value, String.toList_ofList, List.all_eq_true]
  induction links with
  | nil => simp
  | cons l links ih =>
    obtain ⟨hl, hs⟩ := List.forall_mem_cons.1 h
    cases links with
    | nil => simpa using ht hl
    | cons l' links =>
      intro c hc
      rw [List.map_cons, List.map_cons, List.intercalate_cons_cons] at hc
      rcases List.mem_append.1 hc with hc | hc
      · rcases List.mem_append.1 hc with hc | hc
        · exact ht hl c hc
        · exact List.all_eq_true.1 hc' c hc
      · exact ih hs c hc

/-- A message has these links if its first `Link` field holds them, or if it has no such field and
they are none. -/
def Fields (links : List PageLink) (headers : Headers) : Prop :=
  (headers.find? (Headers.sameName "link" ·.1)).map (·.2) =
    if links.isEmpty then none else some (value links)

/-- The links of a message are read back, wherever the link to the next page stands among them. -/
theorem nextPage?_of_fields {links : List PageLink} {headers : Headers} (hf : Fields links headers)
    (h : ∀ l ∈ links, IsTarget l.target) : headers.nextPage? = next? links := by
  rw [Fields] at hf
  cases links with
  | nil =>
    have hn := Option.map_eq_none_iff.1 hf
    simp only [Headers.nextPage?, Headers.text?, hn]
    rfl
  | cons l links =>
    obtain ⟨⟨name, v⟩, hm, hv⟩ := Option.map_eq_some_iff.1 hf
    obtain rfl : v = value (l :: links) := hv
    have ht : headers.text? "link" = some (value (l :: links)).toList := by
      simp only [Headers.text?, hm, Option.bind_eq_bind, Option.bind_some, isReadable_value h]
      rfl
    rw [Headers.nextPage?, ht]
    simp only [Option.bind_eq_bind, Option.bind_some, next?_value h]
    cases next? (l :: links) <;> simp

end PageLink

end CreditRoll.Http
