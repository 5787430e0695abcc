import CreditRoll.Proofs.Address
import CreditRoll.Proofs.Segment
import Mathlib.Data.Bool.AllAny
import Mathlib.Data.List.Basic

namespace CreditRoll.Url.Address

open Segment (stands)

def climb (done : List (List Char)) (step : List Char) : List (List Char) :=
  if isUp step then done.tail else if isHere step then done else step :: done

theorem settle_append_step {step : List Char} (hu : isUp step = false) (hh : isHere step = false)
    (done steps : List (List Char)) :
    settle done (steps ++ [step]) = (steps.foldl climb done).reverse ++ [step] := by
  induction steps generalizing done with
  | nil => simp [settle, hu, hh]
  | cons first steps ih =>
    have hn : (steps ++ [step]).isEmpty = false := by simp
    rw [List.cons_append, settle]
    simp only [hn, Bool.false_and, Bool.false_eq_true, if_false]
    exact ih (climb done first)

/-- A text that is a whole step of a path and goes one step down, whatever stands before it. -/
structure IsStep (s : List Char) : Prop where
  whole : ∀ c ∈ s, c ∉ ['/', '\\', '?', '#']
  visible : ∀ c ∈ s, 0x20 < c.toNat ∧ (c.toNat < 0x7F ∨ 0x9F < c.toNat)
  here : isHere s = false
  up : isUp s = false

structure IsWritten (s : List Char) : Prop extends IsStep s where
  written : ∀ c ∈ s, c = '%' ∨ stands c = true

theorem isWritten_nil : IsWritten [] := ⟨⟨by simp, by simp, rfl, rfl⟩, by simp⟩

theorem IsWritten.escape_eq {s : List Char} (h : IsWritten s) : escape true .path s = s := by
  have he : ∀ c ∈ Part.path.escaped true, c ≠ '%' ∧ stands c = false :=
    List.all_iff_forall_prop.1 (by decide)
  rw [escape]
  refine (List.flatMap_congr fun c hc ↦ if_pos ?_).trans (List.flatMap_singleton' s)
  have hs : c ∉ Part.path.escaped true := fun hm ↦ by
    obtain ⟨hp, hn⟩ := he c hm
    exact (h.written c hc).elim hp fun hs ↦ Bool.noConfusion (hs.symm.trans hn)
  have hv : 0x20 ≤ c.toNat ∧ c.toNat ≤ 0x7E := by
    rcases h.written c hc with rfl | hw
    · decide
    · have := Segment.visible_of_stands hw
      omega
  simp [hs, hv]

def slashed (s : List Char) : List Char := s.map fun c ↦ if c == '\\' then '/' else c

theorem slashed_append_slash {q t : List Char} (h : IsWritten t) :
    slashed (q ++ '/' :: t) = slashed q ++ '/' :: t := by
  have ht : slashed t = t := by
    refine (List.map_congr_left fun c hc ↦ if_neg fun hb ↦ ?_).trans (List.map_id' t)
    exact h.whole c hc (by simp [beq_iff_eq.1 hb])
  rw [slashed, List.map_append]
  exact congrArg (slashed q ++ '/' :: ·) ht

theorem pathText_of_steps {p r t : List Char} {steps : List (List Char)}
    (hp : slashed p = '/' :: r) (hr : r.splitOn '/' = steps ++ [t]) (ht : IsWritten t) :
    pathText true p = ((steps.foldl climb []).reverse.flatMap fun step ↦
      '/' :: escape true .path step) ++ '/' :: t := by
  have hm : p.map (fun c ↦ if c == '\\' then '/' else c) = '/' :: r := hp
  simp only [pathText, if_true, hm, hr, settle_append_step ht.up ht.here, List.flatMap_append,
    List.flatMap_singleton, ht.escape_eq]
  simp

theorem exists_steps {q : List Char} (hq : ∀ c ∈ q.head?, isSlash c = true) :
    ∃ steps, ∀ t, IsWritten t →
      ∃ r, slashed (q ++ '/' :: t) = '/' :: r ∧ r.splitOn '/' = steps ++ [t] := by
  have hone {t : List Char} (ht : IsWritten t) : t.splitOn '/' = [t] :=
    List.splitOn_eq_singleton fun hm ↦ ht.whole _ hm (by decide)
  cases q with
  | nil => exact ⟨[], fun t ht ↦ ⟨t, slashed_append_slash ht, hone ht⟩⟩
  | cons c q =>
    have hc : slashed (c :: q) = '/' :: slashed q := by
      rcases Bool.or_eq_true_iff.1 (hq c rfl) with h | h <;> rw [beq_iff_eq.1 h] <;> rfl
    refine ⟨(slashed q).splitOn '/', fun t ht ↦ ⟨slashed q ++ '/' :: t, ?_, ?_⟩⟩
    · rw [slashed_append_slash ht, hc, List.cons_append]
    · rw [List.splitOn_append_cons_self, hone ht]

/-- The last step of a path is written out after what precedes it, and changes nothing there. -/
theorem pathText_append {q t : List Char} (hq : ∀ c ∈ q.head?, isSlash c = true)
    (ht : IsWritten t) : pathText true (q ++ '/' :: t) = pathText true (q ++ ['/']) ++ t := by
  obtain ⟨steps, hs⟩ := exists_steps hq
  obtain ⟨r, hp, hr⟩ := hs t ht
  obtain ⟨r₀, hp₀, hr₀⟩ := hs [] isWritten_nil
  rw [pathText_of_steps hp hr ht, pathText_of_steps hp₀ hr₀ isWritten_nil, List.append_assoc]
  rfl

theorem text_append {a : Address} (hk : hostSchemes.contains a.scheme = true)
    (hh : a.host.isSome = true) {q t : List Char} (hq : ∀ c ∈ q.head?, isSlash c = true)
    (hn : ∀ c ∈ q, c ≠ '?' ∧ c ≠ '#') (ht : IsWritten t) :
    text { a with path := q ++ '/' :: t } =
      text { a with path := q ++ ['/'] } ++ String.ofList t := by
  have hp {t : List Char} (ht : IsWritten t) :
      (q ++ '/' :: t).takeWhile (fun c ↦ c != '?' && c != '#') = q ++ '/' :: t := by
    refine List.takeWhile_eq_self_iff.2 fun c hc ↦ ?_
    rcases List.mem_append.1 hc with hc | hc
    · simpa using hn c hc
    · rcases List.mem_cons.1 hc with rfl | hc
      · rfl
      · have hw := ht.whole c hc
        simp only [List.mem_cons, List.not_mem_nil, or_false, not_or] at hw
        simpa using hw.2.2
  have he (part : Part) : escape true part [] = [] := rfl
  simp only [text, hp ht, hp isWritten_nil, hk, hh, if_true, List.drop_length, List.takeWhile_nil,
    List.drop_nil, he, List.append_nil, pathText_append hq ht]
  rw [← List.append_assoc, String.ofList_append, ← String.append_assoc]

end CreditRoll.Url.Address

namespace CreditRoll.Github

open Url Address Segment

theorem isWritten_encode {s : String} (hb : '\\' ∉ s.toList) (hh : s ≠ ".") (hu : s ≠ "..") :
    IsWritten (encode s).toList := by
  refine ⟨⟨fun c hc hm ↦ ?_, fun c hc ↦ ?_, ?_, ?_⟩, fun c ↦ mem_encode⟩
  · simp only [List.mem_cons, List.not_mem_nil, or_false] at hm
    rcases hm with rfl | rfl | rfl | rfl
    · exact ne_of_mem_encode hc (by decide) (by decide) rfl
    · exact hb (backslash_mem_encode.1 hc)
    · exact ne_of_mem_encode hc (by decide) (by decide) rfl
    · exact ne_of_mem_encode hc (by decide) (by decide) rfl
  · have hv := visible_of_mem_encode hc
    exact ⟨hv.1, .inl hv.2⟩
  · exact Bool.eq_false_iff.2 fun h ↦ hh (isHere_encode.1 h)
  · exact Bool.eq_false_iff.2 fun h ↦ hu (isUp_encode.1 h)

theorem isStep_encode_iff {s : String} :
    IsStep (encode s).toList ↔ '\\' ∉ s.toList ∧ s ≠ "." ∧ s ≠ ".." := by
  constructor
  · intro h
    refine ⟨fun hb ↦ h.whole _ (backslash_mem_encode.2 hb) (by decide), ?_, ?_⟩
    · rintro rfl
      exact Bool.noConfusion h.here
    · rintro rfl
      exact Bool.noConfusion h.up
  · rintro ⟨hb, hh, hu⟩
    exact (isWritten_encode hb hh hu).toIsStep

namespace Client

section Profiles

variable [Idna]

/-- The addresses of profiles are read as one address with a step after it. -/
theorem exists_users {c : Client} (h : isWebBase c.base = true) :
    ∃ scheme s, (scheme = "http" ∨ scheme = "https") ∧ s ⊆ c.base.toList ++ "/users".toList ∧
      ∀ step : String, (∀ ch ∈ step.toList, 0x20 < ch.toNat) →
        parse? (c.url ("/users/" ++ step)) = (afterSlashes? scheme s).map fun a ↦
          { a with path := a.path ++ '/' :: step.toList } := by
  obtain ⟨scheme, f, hs, hf, hu⟩ := parse?_url h
  have hne : (f ++ "/users".toList).dropWhile isSlash ≠ [] := by
    intro he
    have hu : isSlash 'u' = true := List.dropWhile_eq_nil_iff.1 he 'u' (by simp)
    exact absurd hu (by decide)
  refine ⟨scheme, (f ++ "/users".toList).dropWhile isSlash, hs, ?_, fun step hv ↦ ?_⟩
  · intro ch hc
    rcases List.mem_append.1 ((List.dropWhile_sublist isSlash).subset hc) with hc | hc
    · exact List.mem_append_left _ (hf hc)
    · exact List.mem_append_right _ hc
  · have hp : ("/users/" ++ step).toList = '/' :: ("users/".toList ++ step.toList) := by
      rw [String.toList_append]
      rfl
    have hc : cleanEnd ("users/".toList ++ step.toList) = "users/".toList ++ step.toList := by
      refine cleanEnd_of_visible fun ch hm ↦ (List.mem_append.1 hm).elim ?_ (hv ch)
      have hd : ∀ ch ∈ "users/".toList, 0x20 < ch.toNat := List.all_iff_forall_prop.1 (by decide)
      exact hd ch
    rw [hu hp, hc, ← afterSlashes?_below hne, List.append_assoc]
    rfl

theorem text_of_users {scheme : String} (hs : scheme = "http" ∨ scheme = "https")
    {s t : List Char} (hn : ∀ ch ∈ s, ch ≠ '?' ∧ ch ≠ '#') (ht : IsWritten t) {a : Address}
    (ha : afterSlashes? scheme s = some a) :
    text { a with path := a.path ++ '/' :: t } =
      text { a with path := a.path ++ ['/'] } ++ String.ofList t := by
  obtain ⟨hc, hh, hp⟩ := of_afterSlashes? ha
  have hk : hostSchemes.contains scheme = true := by rcases hs with rfl | rfl <;> rfl
  have hm : ∀ ch ∈ a.path, ch ≠ '?' ∧ ch ≠ '#' := fun ch h ↦
    hn ch ((List.dropWhile_sublist _).subset (hp ▸ h))
  refine text_append (hc ▸ hk) hh (fun ch h ↦ ?_) hm ht
  obtain ⟨hq, hf⟩ := hm ch (List.mem_of_mem_head? h)
  have he : endsAuthority true ch = true := by
    have hd := List.head?_dropWhile_not (!endsAuthority (hostSchemes.contains scheme) ·) s
    rw [← hp, Option.mem_def.1 h, hk] at hd
    simpa using hd
  simpa [endsAuthority, hq, hf, isSlash] using he

/-- What is written as a segment is one visible word without a slash, and it is one step of a path
if and only if it was no dot step and had no backslash. The address of a profile is that of all
profiles with this segment after it, and a segment that is one step is then the name of a child. -/
theorem profile_is_child {c : Client} (h : isWebBase c.base = true) (login : String) :
    let step := encode login
    (∀ ch ∈ step.toList, 0x20 < ch.toNat ∧ ch.toNat < 0x7F ∧ ch ≠ '/' ∧ ch ≠ '?' ∧ ch ≠ '#') ∧
    (IsStep step.toList ↔ '\\' ∉ login.toList ∧ login ≠ "." ∧ login ≠ "..") ∧
    (parse? (c.profileUrl login) = (parse? (c.url "/users/")).map fun users ↦
      { users with path := users.path ++ step.toList }) ∧
    (IsStep step.toList → (∀ ch ∈ c.base.toList, ch ≠ '?' ∧ ch ≠ '#') →
      (parse? (c.profileUrl login)).map text =
        (parse? (c.url "/users/")).map fun users ↦ users.text ++ step) := by
  intro step
  obtain ⟨scheme, s, hs, hm, hu⟩ := exists_users h
  have hl : parse? (c.profileUrl login) = _ := hu step fun ch hc ↦ (visible_of_mem_encode hc).1
  have h0 : parse? (c.url "/users/") = _ := hu "" (by simp)
  refine ⟨fun ch hc ↦ ?_, isStep_encode_iff, ?_, fun hp hb ↦ ?_⟩
  · obtain ⟨hl, hu⟩ := visible_of_mem_encode hc
    exact ⟨hl, hu, ne_of_mem_encode hc (by decide) (by decide),
      ne_of_mem_encode hc (by decide) (by decide), ne_of_mem_encode hc (by decide) (by decide)⟩
  · rw [hl, h0, Option.map_map]
    simp [Function.comp_def]
  · obtain ⟨hb', hh, hd⟩ := isStep_encode_iff.1 hp
    have hn : ∀ ch ∈ s, ch ≠ '?' ∧ ch ≠ '#' := fun ch hc ↦
      (List.mem_append.1 (hm hc)).elim (hb ch) fun hc ↦ by
        have hr : ∀ ch ∈ "/users".toList, ch ≠ '?' ∧ ch ≠ '#' :=
          List.all_iff_forall_prop.1 (by decide)
        exact hr ch hc
    rw [hl, h0, Option.map_map, Option.map_map]
    refine Option.map_congr fun a ha ↦ ?_
    have ht := text_of_users hs hn (isWritten_encode hb' hh hd) ha
    rw [String.ofList_toList] at ht
    exact ht

end Profiles

theorem profile_is_child_plus :
    let c : Client := ⟨"https://ghe.example.com/api/v3", some "t"⟩
    isWebBase c.base = true ∧
      (parse? (c.profileUrl "a+b/c")).map text =
        (parse? (c.url "/users/")).map fun users ↦ users.text ++ "a+b%2Fc" := by
  intro c
  have hc : isWebBase c.base = true := by decide
  obtain ⟨-, hs, -, ht⟩ := profile_is_child hc "a+b/c"
  exact ⟨hc, ht (hs.2 (by decide)) (List.all_iff_forall_prop.1 (by decide))⟩

/-- A backslash is not escaped and dots cannot be, so some logins lead away from the profiles. -/
theorem profile_leaves_users :
    let c : Client := ⟨"https://api.github.com", some "t"⟩
    encode "a\\b" = "a\\b" ∧ encode "." = "." ∧ encode ".." = ".." ∧
      (parse? (c.profileUrl ".")).map text = some "https://api.github.com/users/" ∧
      (parse? (c.profileUrl "..")).map text = some "https://api.github.com/" ∧
      (parse? (c.profileUrl "..\\repos\\o\\r")).map text =
        some "https://api.github.com/repos/o/r" := by
  decide +kernel

end Client

end CreditRoll.Github
