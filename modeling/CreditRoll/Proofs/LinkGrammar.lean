import CreditRoll.Proofs.Blanks
import CreditRoll.Proofs.Link
import Mathlib.Data.List.Basic

namespace CreditRoll.Http

def isVisible (c : Char) : Bool := 0x21 ≤ c.toNat && c.toNat ≤ 0x7E

def isTokenChar (c : Char) : Bool :=
  c.isAlphanum || "!#$%&'*+-.^_|~\x60".toList.contains c

def isQuotable (c : Char) : Bool := (isVisible c || c == ' ') && c != '"' && c != '\\'

def isTargetChar (c : Char) : Bool := isVisible c && c != '>'

structure Token where
  chars : List Char
  nonempty : chars ≠ []
  plain : chars.all isTokenChar = true

inductive ParamValue where
  | token (t : Token)
  | quoted (s : List Char) (h : s.all isQuotable = true)

namespace ParamValue

def content : ParamValue → List Char
  | token t => t.chars
  | quoted s _ => s

def text : ParamValue → List Char
  | token t => t.chars
  | quoted s _ => '"' :: (s ++ ['"'])

end ParamValue

structure LinkParam where
  name : Token
  value : ParamValue

namespace LinkParam

def text (p : LinkParam) : List Char := p.name.chars ++ '=' :: p.value.text

def isRelation (p : LinkParam) : Bool := p.name.chars == "rel".toList

end LinkParam

/-- One link of a `Link` field: its target, which may hold everything visible but the bracket that
ends it, and its parameters, of which at most one gives relations. -/
structure LinkValue where
  target : List Char
  params : List LinkParam
  target_visible : target.all isTargetChar = true
  relation_once : (params.filter (·.isRelation)).length ≤ 1

namespace LinkValue

def paramsText (ps : List LinkParam) : List Char := ps.flatMap fun p ↦ ';' :: ' ' :: p.text

def text (l : LinkValue) : List Char := '<' :: (l.target ++ '>' :: paramsText l.params)

def value (links : List LinkValue) : List Char := [',', ' '].intercalate (links.map text)

def relations (l : LinkValue) : List (List Char) :=
  match l.params.find? (·.isRelation) with
  | some p => p.value.content.splitOn ' '
  | none => []

def isNext (l : LinkValue) : Bool := l.relations.contains "next".toList

def next? (links : List LinkValue) : Option (List Char) := (links.find? isNext).map (·.target)

/-- Whether commas do nothing but part links, and semicolons nothing but part parameters. -/
structure IsPlain (l : LinkValue) : Prop where
  target : ',' ∉ l.target
  values : ∀ p ∈ l.params, ',' ∉ p.value.content ∧ ';' ∉ p.value.content

end LinkValue

theorem isVisible_of_isTokenChar {c : Char} (h : isTokenChar c = true) : isVisible c = true := by
  rcases Bool.or_eq_true_iff.1 h with h | h
  · have hn := Text.toNat_of_isAlphanum h
    simp only [isVisible, Bool.and_eq_true, decide_eq_true_eq]
    omega
  · have hd : "!#$%&'*+-.^_|~\x60".toList.all isVisible = true := by decide
    exact List.all_eq_true.1 hd c (List.contains_iff_mem.1 h)

theorem Token.isVisible_of_mem (t : Token) {c : Char} (hc : c ∈ t.chars) : isVisible c = true :=
  isVisible_of_isTokenChar (List.all_eq_true.1 t.plain c hc)

theorem Token.notMem (t : Token) {c : Char} (h : isTokenChar c = false) : c ∉ t.chars := fun hc ↦
  Bool.noConfusion (h.symm.trans (List.all_eq_true.1 t.plain c hc))

theorem isBlank_of_isVisible {c : Char} (h : isVisible c = true) : Text.isBlank c = false := by
  simp only [isVisible, Bool.and_eq_true, decide_eq_true_eq] at h
  exact Text.isBlank_of_visible h

theorem strip_quoted {s : List Char} (h : '"' ∉ s) :
    Text.strip (· == '"') ('"' :: (s ++ ['"'])) = s := by
  have hn {t : List Char} (ht : t ⊆ s) : ∀ c ∈ t.head?, (c == '"') = false := fun c hc ↦
    beq_eq_false_iff_ne.2 fun he ↦ h (he ▸ ht (List.mem_of_mem_head? hc))
  cases s with
  | nil => rfl
  | cons c s =>
    have hh : ∀ d ∈ (c :: s).head?, (d == '"') = false := hn (List.Subset.refl _)
    have hd : ('"' :: (c :: s ++ ['"'])).dropWhile (· == '"') = c :: s ++ ['"'] := by
      rw [List.dropWhile_cons_of_pos (by rfl)]
      exact Text.dropWhile_eq_self hh
    have hr : (c :: s ++ ['"']).reverse = '"' :: (c :: s).reverse := by simp
    rw [Text.strip, hd, hr, List.dropWhile_cons_of_pos (by rfl),
      Text.dropWhile_eq_self (hn (List.reverse_subset.2 (List.Subset.refl _))), List.reverse_reverse]

/-- Among plain text there is no blank but the space. -/
theorem contains_words {s w : List Char} (hs : ∀ c ∈ s, isVisible c = true ∨ c = ' ')
    (hw : w ≠ []) : (Text.words s).contains w = (s.splitOn ' ').contains w := by
  have hp : s.splitOnP Text.isBlank = s.splitOn ' ' := by
    rw [List.splitOn_eq_splitOnP]
    induction s with
    | nil => rfl
    | cons c s ih =>
      obtain ⟨hc, hs⟩ := List.forall_mem_cons.1 hs
      have hb : Text.isBlank c = (c == ' ') := by
        rcases hc with hc | rfl
        · rw [isBlank_of_isVisible hc, eq_comm, beq_eq_false_iff_ne]
          rintro rfl
          exact absurd hc (by decide)
        · rfl
      rw [List.splitOnP_cons_eq_if_modifyHead, List.splitOnP_cons_eq_if_modifyHead, ih hs, hb]
  rw [Text.words, hp, Bool.eq_iff_iff]
  simp [hw]

namespace ParamValue

theorem isPlain_content (v : ParamValue) : ∀ c ∈ v.content, isVisible c = true ∨ c = ' ' := by
  cases v with
  | token t => exact fun c hc ↦ .inl (t.isVisible_of_mem hc)
  | quoted s h =>
    intro c hc
    have := List.all_eq_true.1 h c hc
    simp only [isQuotable, Bool.and_eq_true, Bool.or_eq_true, beq_iff_eq] at this
    exact this.1.1

theorem strip_text (v : ParamValue) : Text.strip (· == '"') v.text = v.content := by
  cases v with
  | token t =>
    have hq : ∀ c ∈ t.chars, (c == '"') = false := fun c hc ↦
      beq_eq_false_iff_ne.2 fun he ↦ t.notMem (by decide) (he ▸ hc)
    exact Text.strip_eq_self (fun c hc ↦ hq c (List.mem_of_mem_head? hc))
      (fun c hc ↦ hq c (List.mem_of_getLast? hc))
  | quoted s h => exact strip_quoted fun hm ↦ absurd (List.all_eq_true.1 h _ hm) (by decide)

theorem mem_text (v : ParamValue) {c : Char} (hc : '"' ≠ c) : c ∈ v.text ↔ c ∈ v.content := by
  cases v with
  | token t => rfl
  | quoted s h => simp [text, content, hc.symm]

theorem isBlank_getLast (v : ParamValue) : ∀ c ∈ v.text.getLast?, Text.isBlank c = false := by
  cases v with
  | token t => exact fun c hc ↦
      isBlank_of_isVisible (t.isVisible_of_mem (List.mem_of_getLast? hc))
  | quoted s h =>
    intro c hc
    obtain rfl : '"' = c := by simpa [text, List.getLast?_cons] using hc
    rfl

end ParamValue

namespace LinkParam

theorem trim_text (p : LinkParam) : Text.trim (' ' :: p.text) = p.text := by
  have hs : Text.trim (' ' :: p.text) = Text.trim p.text := rfl
  rw [hs]
  refine Text.strip_eq_self (fun c hc ↦ ?_) (fun c hc ↦ ?_)
  · rw [text, List.head?_append_of_ne_nil _ p.name.nonempty] at hc
    exact isBlank_of_isVisible (p.name.isVisible_of_mem (List.mem_of_mem_head? hc))
  · rw [text, List.getLast?_append, List.getLast?_cons] at hc
    cases hv : p.value.text.getLast? with
    | none =>
      obtain rfl : '=' = c := by simpa [hv] using hc
      rfl
    | some d =>
      obtain rfl : d = c := by simpa [hv] using hc
      exact p.value.isBlank_getLast d hv

theorem isPrefixOf?_text (p : LinkParam) :
    ['r', 'e', 'l', '='].isPrefixOf? p.text = if p.isRelation then some p.value.text else none := by
  have ht : p.text.takeWhile (· != '=') = p.name.chars := by
    have hn : ∀ c ∈ p.name.chars, (c != '=') = true := fun c hc ↦
      bne_iff_ne.2 fun he ↦ p.name.notMem (by decide) (he ▸ hc)
    rw [text, List.takeWhile_append_of_pos hn]
    exact List.append_nil _
  split
  · next h =>
    rw [List.isPrefixOf?_eq_some_iff_append_eq, text, beq_iff_eq.1 h]
    rfl
  · next h =>
    refine Option.eq_none_iff_forall_not_mem.2 fun v hv ↦ h ?_
    rw [← List.isPrefixOf?_eq_some_iff_append_eq.1 hv] at ht
    rw [isRelation, ← ht, beq_iff_eq]
    rfl

theorem isNextRelation_text (p : LinkParam) :
    Link.isNextRelation (' ' :: p.text) =
      (p.isRelation && (p.value.content.splitOn ' ').contains "next".toList) := by
  rw [Link.isNextRelation, trim_text, isPrefixOf?_text]
  cases p.isRelation with
  | false => rfl
  | true =>
    simp only [if_true, p.value.strip_text, Bool.true_and]
    exact contains_words p.value.isPlain_content (by decide)

end LinkParam

namespace LinkValue

theorem splitOn_paramsText {ps : List LinkParam} (h : ∀ p ∈ ps, ';' ∉ p.text) :
    (paramsText ps).splitOn ';' = [] :: ps.map (' ' :: ·.text) := by
  have hs (s : List Char) (hs : ';' ∉ s) :
      (s ++ paramsText ps).splitOn ';' = s :: ps.map (' ' :: ·.text) := by
    induction ps generalizing s with
    | nil => rw [paramsText, List.flatMap_nil, List.append_nil, List.splitOn_eq_singleton hs]; rfl
    | cons p ps ih =>
      obtain ⟨hp, hps⟩ := List.forall_mem_cons.1 h
      have he : s ++ paramsText (p :: ps) = s ++ ';' :: (' ' :: p.text ++ paramsText ps) := rfl
      rw [he, List.splitOn_append_cons_self, List.splitOn_eq_singleton hs, ih hps _ (by simpa)]
      rfl
  exact hs [] (by simp)

theorem any_isNextRelation {l : LinkValue} (h : ∀ p ∈ l.params, ';' ∉ p.text) :
    ((paramsText l.params).splitOn ';').any Link.isNextRelation = l.isNext := by
  have hn : Link.isNextRelation [] = false := rfl
  have hf : l.params.filter LinkParam.isRelation = l.params.filter (·.isRelation) := rfl
  have ho := l.relation_once
  rw [splitOn_paramsText h, List.any_cons, hn, Bool.false_or, List.any_map, isNext, relations,
    ← List.head?_filter]
  simp only [Function.comp_def, LinkParam.isNextRelation_text]
  rw [← List.any_filter, hf]
  generalize l.params.filter (·.isRelation) = ps at ho
  match ps, ho with
  | [], _ => rfl
  | [p], _ => simp
  | _ :: _ :: _, ho => simp at ho

theorem IsPlain.notMem_text {l : LinkValue} (h : l.IsPlain) {p : LinkParam} (hp : p ∈ l.params) :
    ',' ∉ p.text ∧ ';' ∉ p.text := by
  have ht {d : Char} (hd : d ∉ p.value.content) (hn : isTokenChar d = false) (he : '=' ≠ d)
      (hq : '"' ≠ d) : d ∉ p.text := by
    simp [LinkParam.text, p.name.notMem hn, he.symm, p.value.mem_text hq, hd]
  exact ⟨ht (h.values p hp).1 (by decide) (by decide) (by decide),
    ht (h.values p hp).2 (by decide) (by decide) (by decide)⟩

theorem newline_notMem_paramsText (ps : List LinkParam) : '\n' ∉ paramsText ps := by
  intro hm
  obtain ⟨p, -, hm⟩ := List.mem_flatMap.1 hm
  have hn : '\n' ∉ p.name.chars := p.name.notMem (by decide)
  have hv : '\n' ∉ p.value.content := fun hm ↦ absurd (p.value.isPlain_content _ hm) (by decide)
  simp [LinkParam.text, hn, p.value.mem_text, hv] at hm

theorem nextOf?_text {l : LinkValue} (h : ∀ p ∈ l.params, ';' ∉ p.text) :
    Link.nextOf? l.text = if l.isNext then some l.target else none := by
  have ht : '>' ∉ l.target := fun hm ↦
    absurd (List.all_eq_true.1 l.target_visible _ hm) (by decide)
  rw [Link.nextOf?, text, Link.split?_bracketed ht (newline_notMem_paramsText _)]
  simp only [Option.bind_eq_bind, Option.bind_some, any_isNextRelation h]
  cases l.isNext <;> rfl

theorem IsPlain.comma_notMem_text {l : LinkValue} (h : l.IsPlain) : ',' ∉ l.text := by
  have hp : ',' ∉ paramsText l.params := fun hm ↦ by
    obtain ⟨p, hp, hm⟩ := List.mem_flatMap.1 hm
    simp [(h.notMem_text hp).1] at hm
  simp [text, h.target, hp]

/-- A link to the next page is found and no other is taken for it, as long as commas and semicolons
do nothing but part. -/
theorem next?_value_plain {links : List LinkValue} (h : ∀ l ∈ links, l.IsPlain) :
    Link.next? (value links) = next? links := by
  have hc : ∀ t ∈ links.map text, ',' ∉ t := fun t ht ↦ by
    obtain ⟨l, hl, rfl⟩ := List.mem_map.1 ht
    exact (h l hl).comma_notMem_text
  rw [value, Link.next?_intercalate hc, List.findSome?_map]
  induction links with
  | nil => rfl
  | cons l links ih =>
    obtain ⟨hl, hs⟩ := List.forall_mem_cons.1 h
    have hn := nextOf?_text fun p hp ↦ (hl.notMem_text hp).2
    have ih := ih hs fun t ht ↦ hc t (List.mem_cons_of_mem _ ht)
    rw [List.findSome?_cons, Function.comp_apply, hn, ih, next?, next?, List.find?_cons]
    cases l.isNext <;> rfl

theorem next?_value_plain_titled :
    ∃ links : List LinkValue, (∀ l ∈ links, l.IsPlain) ∧
      value links = ("<http://x/?page=1>; rel=prev, ".toList ++
        "<http://x/?page=3>; title=\"up <to> 3\"; rel=\"last next\"".toList) ∧
      Link.next? (value links) = some "http://x/?page=3".toList := by
  let rel : Token := ⟨"rel".toList, by decide, by decide⟩
  let title : LinkParam :=
    ⟨⟨"title".toList, by decide, by decide⟩, .quoted "up <to> 3".toList (by decide)⟩
  let back : LinkValue :=
    ⟨"http://x/?page=1".toList, [⟨rel, .token ⟨"prev".toList, by decide, by decide⟩⟩], by decide,
      by decide⟩
  let on : LinkValue :=
    ⟨"http://x/?page=3".toList, [title, ⟨rel, .quoted "last next".toList (by decide)⟩], by decide,
      by decide⟩
  have h : ∀ l ∈ [back, on], l.IsPlain := by
    intro l hl
    rcases List.mem_pair.1 hl with rfl | rfl <;> exact ⟨by decide, by decide⟩
  exact ⟨[back, on], h, by decide, (next?_value_plain h).trans (by decide)⟩

/-- A comma in a target hides the next page, and a semicolon in a title makes one up. -/
theorem next?_value_parted :
    (∃ l : LinkValue, value [l] = "<http://x/?a=1,2>; rel=\"next\"".toList ∧
      next? [l] = some "http://x/?a=1,2".toList ∧ Link.next? (value [l]) = none) ∧
    ∃ l : LinkValue, value [l] = "<http://x/p>; title=\"a; rel=next\"".toList ∧
      next? [l] = none ∧ Link.next? (value [l]) = some "http://x/p".toList := by
  let next : LinkParam :=
    ⟨⟨"rel".toList, by decide, by decide⟩, .quoted "next".toList (by decide)⟩
  let title : LinkParam :=
    ⟨⟨"title".toList, by decide, by decide⟩, .quoted "a; rel=next".toList (by decide)⟩
  exact ⟨⟨⟨"http://x/?a=1,2".toList, [next], by decide, by decide⟩,
      by decide, by decide, by decide⟩,
    ⟨⟨"http://x/p".toList, [title], by decide, by decide⟩, by decide, by decide, by decide⟩⟩

end LinkValue

end CreditRoll.Http
