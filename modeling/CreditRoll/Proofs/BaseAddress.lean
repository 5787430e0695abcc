import CreditRoll.Proofs.Signed

namespace CreditRoll.Github

def slashes (n : Nat) : String := String.ofList (List.replicate n '/')

def IsWebStart (base : String) : Prop :=
  "http://".toList <+: base.toList ∨ "https://".toList <+: base.toList

namespace Client

variable {base core : String}

theorem isWebBase_iff : isWebBase base = true ↔ IsWebStart base := by
  rw [isWebBase, Bool.or_eq_true, List.isPrefixOf_iff_prefix, List.isPrefixOf_iff_prefix, or_comm]
  rfl

theorem toList_append_slashes (n : Nat) :
    (base ++ slashes n).toList = base.toList ++ List.replicate n '/' := by
  rw [String.toList_append, slashes, String.toList_ofList]

theorem dropSlashes_append (base : String) (n : Nat) :
    dropSlashes (base ++ slashes n) = dropSlashes base := by
  have hs : ∀ c ∈ List.replicate n '/', (c == '/') = true := by
    intro c hc
    rw [List.eq_of_mem_replicate hc]
    rfl
  rw [dropSlashes, dropSlashes, toList_append_slashes, List.reverse_append, List.reverse_replicate,
    List.dropWhile_append_of_pos hs]

theorem getLast?_dropSlashes (base : String) : (dropSlashes base).toList.getLast? ≠ some '/' := by
  intro h
  rw [dropSlashes, String.toList_ofList, List.getLast?_reverse] at h
  have hn := List.head?_dropWhile_not (· == '/') base.toList.reverse
  rw [h] at hn
  cases hn

/-- The slashes of the scheme itself are not at the end, so something comes after them. -/
theorem exists_rest (h : IsWebStart core) (hl : core.toList.getLast? ≠ some '/') :
    ∃ scheme ∈ ["http", "https"], ∃ rest, core = scheme ++ "://" ++ rest ∧ rest ≠ "" := by
  have hr {scheme : String} {rest : List Char}
      (hc : (scheme ++ "://").toList ++ rest = core.toList) :
      core = scheme ++ "://" ++ String.ofList rest ∧ String.ofList rest ≠ "" := by
    have he : core = scheme ++ "://" ++ String.ofList rest := by
      rw [← String.toList_inj, String.toList_append, String.toList_ofList, hc]
    refine ⟨he, ?_⟩
    intro hn
    rw [he, hn] at hl
    simp at hl
  rcases h with ⟨rest, hc⟩ | ⟨rest, hc⟩
  · exact ⟨"http", by simp, _, hr hc⟩
  · exact ⟨"https", by simp, _, hr hc⟩

theorem make_of_not_isWebStart (h : ¬ IsWebStart (dropSlashes base)) (token : Option String) :
    make base token = .error (.invalidBase (dropSlashes base)) := by
  have hb : isWebBase (dropSlashes base) = false := by
    rw [Bool.eq_false_iff]
    intro hw
    exact h (isWebBase_iff.1 hw)
  simp [make, hb]

theorem make_invalidBase_iff (base : String) (token : Option String) :
    (∃ address, make base token = .error (.invalidBase address)) ↔
      ¬ IsWebStart (dropSlashes base) := by
  constructor
  · intro h hw
    obtain ⟨address, h⟩ := h
    simp only [make, isWebBase_iff.2 hw, Bool.not_true, Bool.false_eq_true, if_false] at h
    split at h
    · cases h
    · cases h
  · intro h
    exact ⟨_, make_of_not_isWebStart h token⟩

/-- Slashes at the end of a base make no difference to what comes of it. It is refused if and only
if what stands before them is no web address, and else it is what every path is put after. -/
theorem make_ignores_slashes (base : String) (token : Option String) :
    (∀ n, make (base ++ slashes n) token = make base token) ∧
    ∃ core, (∃ n, base = core ++ slashes n) ∧ core.toList.getLast? ≠ some '/' ∧
      ((∃ address, make base token = .error (.invalidBase address)) ↔ ¬ IsWebStart core) ∧
      (¬ IsWebStart core → make base token = .error (.invalidBase core)) ∧
      (IsWebStart core → (∀ t ∈ token, Sendable t) → make base token = .ok ⟨core, token⟩) ∧
      ∀ c, make base token = .ok c →
        c.base = core ∧
        (∃ scheme ∈ ["http", "https"], ∃ rest, core = scheme ++ "://" ++ rest ∧ rest ≠ "") ∧
        ∀ rest, c.url ("/" ++ rest) = core ++ "/" ++ rest ∧
          ∀ s, s ++ ("/" ++ rest) = c.url ("/" ++ rest) ↔ s = core := by
  refine ⟨?_, dropSlashes base, ?_, getLast?_dropSlashes base, make_invalidBase_iff base token,
    fun h ↦ make_of_not_isWebStart h token, ?_, ?_⟩
  · intro n
    simp only [make, dropSlashes_append]
  · obtain ⟨n, hn⟩ := exists_dropSlashes base
    refine ⟨n, ?_⟩
    rw [← String.toList_inj, toList_append_slashes]
    exact hn
  · intro h ht
    rw [make_of_sendable base ht, isWebBase_iff.2 h]
    rfl
  · intro c hc
    obtain ⟨hb, hw⟩ := make_ok hc
    rw [hb] at hw
    refine ⟨hb, exists_rest (isWebBase_iff.1 hw) (getLast?_dropSlashes base), ?_⟩
    intro rest
    rw [url, hb]
    refine ⟨(String.append_assoc ..).symm, ?_⟩
    intro s
    rw [← String.toList_inj, ← String.toList_inj, String.toList_append,
      String.toList_append (s := dropSlashes base), List.append_cancel_right_eq]

theorem make_ignores_slashes_shared :
    let c : Client := ⟨"https://ghe.example.com/api/v3", none⟩
    make "https://ghe.example.com/api/v3//" none = .ok c ∧
      c.url "/users/octocat" = "https://ghe.example.com/api/v3/users/octocat" ∧
      make "http:///" (some "t") = .error (.invalidBase "http:") := by
  intro c
  have hc : make "https://ghe.example.com/api/v3" none = .ok c := by decide
  have hs := (make_ignores_slashes "https://ghe.example.com/api/v3" none).1 2
  have hh := (make_ignores_slashes "http:" (some "t")).1 3
  exact ⟨hs.trans hc, by decide, hh.trans (by decide)⟩

end Client

end CreditRoll.Github
