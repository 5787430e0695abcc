import CreditRoll.Http.Link
import CreditRoll.Proofs.Blanks
import Mathlib.Data.List.Basic
import Mathlib.Data.Option.Basic

namespace CreditRoll

namespace Text

variable {p : Char → Bool}

structure IsPiece (p : Char → Bool) (before piece after : List Char) : Prop where
  whole : ∀ c ∈ piece, p c = false
  left : ∀ c ∈ before.getLast?, p c = true
  right : ∀ c ∈ after.head?, p c = true

theorem forall_mem_head?_append {P : Char → Prop} {s t : List Char} (hs : ∀ c ∈ s.head?, P c)
    (ht : ∀ c ∈ t.head?, P c) : ∀ c ∈ (s ++ t).head?, P c := by
  cases s with
  | nil => exact ht
  | cons d s => exact hs

theorem forall_mem_getLast?_append {P : Char → Prop} {s t : List Char}
    (hs : ∀ c ∈ s.getLast?, P c) (ht : ∀ c ∈ t.getLast?, P c) :
    ∀ c ∈ (s ++ t).getLast?, P c := by
  rw [List.getLast?_append]
  cases h : t.getLast? with
  | none => exact hs
  | some d =>
    rw [h] at ht
    exact ht

/-- A piece lies before the first cut or is a piece of what comes after it. -/
theorem exists_isPiece {s piece : List Char} (h : piece ∈ s.splitOnP p) :
    ∃ before after, s = before ++ piece ++ after ∧ IsPiece p before piece after := by
  cases hf : s.find? p with
  | none =>
    have hs : ∀ c ∈ s, p c = false := fun c hc ↦ by
      simpa using List.find?_eq_none.1 hf c hc
    rw [List.splitOnP_eq_singleton hs] at h
    obtain rfl := List.mem_singleton.1 h
    refine ⟨[], [], by simp, hs, ?_, ?_⟩
    · intro c hc
      cases hc
    · intro c hc
      cases hc
  | some d =>
    obtain ⟨hd, a, b, rfl, ha⟩ := List.find?_eq_some_iff_append.1 hf
    have ha : ∀ c ∈ a, p c = false := fun c hc ↦ by simpa using ha c hc
    rw [List.splitOnP_append_cons_of_forall_mem ha d hd] at h
    rcases List.mem_cons.1 h with rfl | h
    · refine ⟨[], d :: b, by simp, ha, ?_, ?_⟩
      · intro c hc
        cases hc
      · intro c hc
        cases hc
        exact hd
    · obtain ⟨before, after, rfl, hw, hl, hr⟩ := exists_isPiece h
      refine ⟨a ++ d :: before, after, by simp, hw, ?_, hr⟩
      intro c hc
      rw [List.getLast?_append, List.getLast?_cons] at hc
      cases hb : before.getLast? with
      | none =>
        rw [hb] at hc
        cases hc
        exact hd
      | some e =>
        rw [hb] at hc hl
        exact hl c hc
termination_by s.length
decreasing_by simp_all; omega

end Text

namespace Http.Link

open Text (IsPiece isBlank)

/-- The parameters of a link name `next` as one of its relations: it is a word of its own in a
parameter that begins with `rel=`. -/
def Advertises (params : List Char) : Prop :=
  ∃ before gap after,
    params = before ++ "rel=".toList ++ (gap ++ "next".toList) ++ after ∧ ';' ∉ gap ∧
      (∀ c ∈ before.getLast?, c = ';' ∨ isBlank c = true) ∧
      (∀ c ∈ gap.getLast?, c = '"' ∨ isBlank c = true) ∧
      ∀ c ∈ after.head?, c = ';' ∨ c = '"' ∨ isBlank c = true

theorem next?_append_comma (a b : List Char) :
    next? (a ++ ',' :: b) = (next? a).or (next? b) := by
  rw [next?, List.splitOn_append_cons_self, List.findSome?_append]
  rfl

/-- How the parameter with the word stands: quotes around the relations, blanks around the
parameter. -/
theorem exists_of_isNextRelation {param : List Char} (h : isNextRelation param = true) :
    ∃ w q x y q' w', param = w ++ ("rel=".toList ++ (q ++ (x ++ "next".toList ++ y) ++ q')) ++ w' ∧
      (∀ c ∈ w, isBlank c = true) ∧ (∀ c ∈ w', isBlank c = true) ∧
      (∀ c ∈ q, c = '"') ∧ (∀ c ∈ q', c = '"') ∧ IsPiece isBlank x "next".toList y := by
  rw [isNextRelation] at h
  split at h
  · next value hv =>
    have hm := (List.mem_filter.1 (List.contains_iff_mem.1 h)).1
    obtain ⟨x, y, hs, hp⟩ := Text.exists_isPiece hm
    obtain ⟨q, q', hq, hql, hqr⟩ := Text.exists_strip (· == '"') value
    obtain ⟨w, w', hw, hwl, hwr⟩ := Text.exists_strip isBlank param
    refine ⟨w, q, x, y, q', w', ?_, hwl, hwr, ?_, ?_, hp⟩
    · have hx : q ++ (x ++ "next".toList ++ y) ++ q' = value := by
        rw [hq, hs]
        rfl
      have hr : "rel=".toList ++ value = Text.trim param :=
        List.isPrefixOf?_eq_some_iff_append_eq.1 hv
      rw [hx, hr]
      exact hw
    · intro c hc
      exact beq_iff_eq.1 (hql c hc)
    · intro c hc
      exact beq_iff_eq.1 (hqr c hc)
  · cases h

theorem advertises_of_any {params : List Char}
    (h : (params.splitOn ';').any isNextRelation = true) : Advertises params := by
  obtain ⟨param, hm, hn⟩ := List.any_eq_true.1 h
  rw [List.splitOn_eq_splitOnP] at hm
  obtain ⟨before, after, rfl, hp⟩ := Text.exists_isPiece hm
  obtain ⟨w, q, x, y, q', w', rfl, hw, hw', hq, hq', hx⟩ := exists_of_isNextRelation hn
  refine ⟨before ++ w, q ++ x, y ++ (q' ++ (w' ++ after)), by simp, ?_, ?_, ?_, ?_⟩
  · intro hc
    have hm : ';' ∈ w ++ ("rel=".toList ++ (q ++ (x ++ "next".toList ++ y) ++ q')) ++ w' := by
      rcases List.mem_append.1 hc with hc | hc <;> simp [hc]
    exact absurd (hp.whole ';' hm) (by decide)
  · apply Text.forall_mem_getLast?_append
    · intro c hc
      exact .inl (beq_iff_eq.1 (hp.left c hc))
    · intro c hc
      exact .inr (hw c (List.mem_of_getLast? hc))
  · apply Text.forall_mem_getLast?_append
    · intro c hc
      exact .inl (hq c (List.mem_of_getLast? hc))
    · intro c hc
      exact .inr (hx.left c hc)
  · apply Text.forall_mem_head?_append
    · intro c hc
      exact .inr (.inr (hx.right c hc))
    · apply Text.forall_mem_head?_append
      · intro c hc
        exact .inr (.inl (hq' c (List.mem_of_mem_head? hc)))
      · apply Text.forall_mem_head?_append
        · intro c hc
          exact .inr (.inr (hw' c (List.mem_of_mem_head? hc)))
        · intro c hc
          exact .inl (beq_iff_eq.1 (hp.right c hc))

theorem eq_of_split? {link target params : List Char} (h : split? link = some (target, params)) :
    '>' ∉ target ∧ ∃ w, link = w ++ '<' :: (target ++ '>' :: params) ∧
      ∀ c ∈ w, isBlank c = true := by
  simp only [split?] at h
  split at h
  · next rest hrest =>
    split at h
    · next params' hparams =>
      split at h
      · cases h
      · cases h
        have hl : link.takeWhile isBlank ++ '<' :: rest = link := by
          rw [← hrest, List.takeWhile_append_dropWhile]
        have hr : rest.takeWhile (· != '>') ++ '>' :: params = rest := by
          rw [← hparams, List.takeWhile_append_dropWhile]
        refine ⟨?_, link.takeWhile isBlank, ?_, ?_⟩
        · intro hc
          exact absurd (List.mem_takeWhile_imp hc) (by decide)
        · rw [hr, hl]
        · intro c hc
          exact List.mem_takeWhile_imp hc
    · cases h
  · cases h

theorem nextOf?_eq_some {link target : List Char} (h : nextOf? link = some target) :
    ∃ params, split? link = some (target, params) ∧ Advertises params := by
  simp only [nextOf?, Option.bind_eq_bind, Option.bind_eq_some_iff] at h
  obtain ⟨⟨target', params⟩, hs, _, hg, ht⟩ := h
  cases ht
  exact ⟨params, hs, advertises_of_any ((Option.guard_eq_some' _).1 hg)⟩

/-- The links of two lists one after the other are searched one list after the other. What is found
stands in the text as a link that names `next` among its relations, so that text around a list
changes nothing unless a link before it does the same. -/
theorem next?_composes :
    (∀ a b, next? (a ++ ',' :: b) = (next? a).or (next? b)) ∧
    (∀ value target, next? value = some target → ∃ before params after,
      value = before ++ ('<' :: (target ++ '>' :: params)) ++ after ∧
      '>' ∉ target ∧ ',' ∉ target ∧ ',' ∉ params ∧ (∀ c ∈ after.head?, c = ',') ∧
      Advertises params) ∧
    ∀ earlier value later target, next? earlier = none → next? value = some target →
      next? (earlier ++ ',' :: (value ++ ',' :: later)) = some target := by
  refine ⟨next?_append_comma, ?_, ?_⟩
  · intro value target h
    obtain ⟨link, hm, hl⟩ := List.exists_of_findSome?_eq_some h
    obtain ⟨params, hs, ha⟩ := nextOf?_eq_some hl
    obtain ⟨ht, w, rfl, -⟩ := eq_of_split? hs
    rw [List.splitOn_eq_splitOnP] at hm
    obtain ⟨before, after, rfl, hp⟩ := Text.exists_isPiece hm
    have hc : ',' ∉ w ++ '<' :: (target ++ '>' :: params) := fun hc ↦
      absurd (hp.whole ',' hc) (by decide)
    simp only [List.mem_append, List.mem_cons, not_or] at hc
    obtain ⟨-, -, htarget, -, hparams⟩ := hc
    refine ⟨before ++ w, params, after, by simp, ht, htarget, hparams, ?_, ha⟩
    intro c hc
    exact beq_iff_eq.1 (hp.right c hc)
  · intro earlier value later target he hv
    rw [next?_append_comma, next?_append_comma, he, hv]
    rfl

theorem next?_composes_crowded :
    let value := " <b>; title=x;rel=\"last next\"".toList
    next? "<a>; rel=prev".toList = none ∧ next? value = some "b".toList ∧
      next? ("<a>; rel=prev".toList ++ ',' :: (value ++ ',' :: "<c>; rel=next".toList)) =
        some "b".toList := by
  intro value
  have ha : next? "<a>; rel=prev".toList = none := by decide
  have hb : next? value = some "b".toList := by decide
  exact ⟨ha, hb, next?_composes.2.2 _ _ _ _ ha hb⟩

end Http.Link

end CreditRoll
