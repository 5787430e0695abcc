import CreditRoll.Text.Blank
import Mathlib.Data.List.TakeWhile

namespace CreditRoll.Text

theorem toNat_of_isAlphanum {c : Char} (h : c.isAlphanum = true) :
    0x30 ≤ c.toNat ∧ c.toNat ≤ 0x39 ∨ 0x41 ≤ c.toNat ∧ c.toNat ≤ 0x5A ∨
      0x61 ≤ c.toNat ∧ c.toNat ≤ 0x7A := by
  delta Char.isAlphanum Char.isAlpha Char.isUpper Char.isLower Char.isDigit at h
  simp only [Bool.or_eq_true, Bool.and_eq_true, decide_eq_true_eq, ge_iff_le,
    UInt32.le_iff_toNat_le] at h
  change ((0x41 ≤ c.toNat ∧ c.toNat ≤ 0x5A) ∨ (0x61 ≤ c.toNat ∧ c.toNat ≤ 0x7A)) ∨
    (0x30 ≤ c.toNat ∧ c.toNat ≤ 0x39) at h
  omega

theorem isBlank_of_visible {c : Char} (h : 0x21 ≤ c.toNat ∧ c.toNat ≤ 0x7E) :
    isBlank c = false := by
  simp only [isBlank, Bool.or_eq_false_iff, Bool.and_eq_false_iff, decide_eq_false_iff_not,
    beq_eq_false_iff_ne]
  omega

variable {p : Char → Bool} {s : List Char}

theorem dropWhile_eq_self (h : ∀ c ∈ s.head?, p c = false) : s.dropWhile p = s := by
  cases s with
  | nil => rfl
  | cons c s => exact List.dropWhile_cons_of_neg (by simp [h c rfl])

theorem strip_eq_self (hh : ∀ c ∈ s.head?, p c = false) (hl : ∀ c ∈ s.getLast?, p c = false) :
    strip p s = s := by
  rw [strip, dropWhile_eq_self hh, dropWhile_eq_self (by simpa using hl), List.reverse_reverse]

/-- What is stripped anyway may as well stand around a text. -/
theorem strip_append {w w' : List Char} (hw : ∀ c ∈ w, p c = true) (hw' : ∀ c ∈ w', p c = true)
    (s : List Char) : strip p (w ++ s ++ w') = strip p s := by
  have hr : ∀ c ∈ w'.reverse, p c = true := fun c hc ↦ hw' c (List.mem_reverse.1 hc)
  have hd : w'.dropWhile p = [] := List.dropWhile_eq_nil_iff.2 hw'
  rw [strip, strip, List.append_assoc, List.dropWhile_append_of_pos hw, List.dropWhile_append]
  split
  · next he =>
    rw [List.isEmpty_iff.1 he, hd]
  · rw [List.reverse_append, List.dropWhile_append_of_pos hr]

theorem exists_strip (p : Char → Bool) (s : List Char) :
    ∃ w w', s = w ++ strip p s ++ w' ∧ (∀ c ∈ w, p c = true) ∧ ∀ c ∈ w', p c = true := by
  let rest := s.dropWhile p
  have hrest : rest = strip p s ++ (rest.reverse.takeWhile p).reverse := by
    rw [strip, ← List.reverse_append, List.takeWhile_append_dropWhile, List.reverse_reverse]
  refine ⟨s.takeWhile p, (rest.reverse.takeWhile p).reverse, ?_, ?_, ?_⟩
  · rw [List.append_assoc, ← hrest, List.takeWhile_append_dropWhile]
  · intro c hc
    exact List.mem_takeWhile_imp hc
  · intro c hc
    exact List.mem_takeWhile_imp (List.mem_reverse.1 hc)

theorem trim_cons {c : Char} (h : isBlank c = false) (s : List Char) :
    ∃ t, trim (c :: s) = c :: t := by
  have hd : (c :: s).dropWhile isBlank = c :: s := by
    rw [List.dropWhile_cons, if_neg (by simp [h])]
  rw [trim, strip, hd, List.reverse_cons, List.dropWhile_append]
  split
  · exact ⟨[], by simp [h]⟩
  · exact ⟨_, by rw [List.reverse_append]; rfl⟩

end CreditRoll.Text
