import CreditRoll.Credit.Order
import CreditRoll.Proofs.Utf8
import Mathlib.Data.List.Sigma
import Mathlib.Data.String.Basic

namespace CreditRoll.Order

open Text.Utf8 (encode)

def lowered (c : Credit) : String := String.ofList (Text.lowercase c.displayName.toList)

/-- `arranged` are the credits by name. Each of them is in `placed` with the place where it was
listed, and that place decides between credits of one name. -/
structure SortedByName (credits arranged : List Credit) (placed : List (Credit × Nat)) : Prop where
  perm : placed.Perm credits.zipIdx
  arranges : placed.map (·.1) = arranged
  ordered : arranged.Pairwise (lowered · ≤ lowered ·)
  stable : placed.Pairwise fun a b ↦ lowered a.1 = lowered b.1 → a.2 < b.2

def before (a b : Credit) : Bool := decide (lowered a ≤ lowered b)

theorem arrange_byName (credits : List Credit) :
    byName.arrange credits = credits.mergeSort before := rfl

theorem before_trans (a b c : Credit) (hab : before a b = true) (hbc : before b c = true) :
    before a c = true := by
  simp only [before, decide_eq_true_eq] at hab hbc ⊢
  exact String.le_trans hab hbc

theorem before_total (a b : Credit) : (before a b || before b a) = true := by
  simpa [before] using String.le_total (lowered a) (lowered b)

theorem pairwise_before (credits : List Credit) :
    (byName.arrange credits).Pairwise (before · · = true) := by
  rw [arrange_byName]
  exact List.pairwise_mergeSort before_trans before_total credits

variable {credits arranged arranged' : List Credit} {placed placed' : List (Credit × Nat)}

/-- No two credits were listed at one place. -/
theorem pairwise_place_ne (h : placed.Perm credits.zipIdx) :
    placed.Pairwise fun a b ↦ a.2 ≠ b.2 := by
  have hn : (placed.map Prod.snd).Nodup := by
    rw [(h.map Prod.snd).nodup_iff]
    exact List.nodup_zipIdx_map_snd credits
  exact List.pairwise_map.1 hn

theorem exists_sortedByName (credits : List Credit) :
    ∃ placed, SortedByName credits (byName.arrange credits) placed := by
  have hp : (credits.zipIdx.mergeSort (List.zipIdxLE before)).Perm credits.zipIdx :=
    List.mergeSort_perm _ _
  refine ⟨credits.zipIdx.mergeSort (List.zipIdxLE before), hp, List.mergeSort_zipIdx, ?_, ?_⟩
  · exact (pairwise_before credits).imp fun h ↦ of_decide_eq_true h
  · have h := List.pairwise_mergeSort (List.zipIdxLE_trans before_trans)
      (List.zipIdxLE_total before_total) credits.zipIdx
    apply (h.and (pairwise_place_ne hp)).imp
    intro a b hab he
    have hle : a.2 ≤ b.2 := by simpa [List.zipIdxLE, before, he] using hab.1
    exact Nat.lt_of_le_of_ne hle hab.2

theorem SortedByName.pairwise (h : SortedByName credits arranged placed) :
    placed.Pairwise fun a b ↦
      lowered a.1 ≤ lowered b.1 ∧ (lowered a.1 = lowered b.1 → a.2 < b.2) := by
  have ho := h.ordered
  rw [← h.arranges] at ho
  exact (List.pairwise_map.1 ho).and h.stable

/-- Of two credits one has to come first, so the credits have one arrangement by name. -/
theorem SortedByName.unique (h : SortedByName credits arranged placed)
    (h' : SortedByName credits arranged' placed') : arranged = arranged' := by
  have hp : placed = placed' := by
    apply List.Perm.eq_of_pairwise _ h.pairwise h'.pairwise (h.perm.trans h'.perm.symm)
    intro a b _ _ hab hba
    have he := String.le_antisymm hab.1 hba.1
    exact absurd (hab.2 he) (Nat.not_lt_of_lt (hba.2 he.symm))
  rw [← h.arranges, ← h'.arranges, hp]

/-- Only this arrangement of the credits has the names in order and leaves the credits of one name
as they were listed. The order of names is that of their characters and of their bytes alike. -/
theorem arrange_sorts_by_name (credits : List Credit) :
    let sorted := byName.arrange credits
    listed.arrange credits = credits ∧ sorted.Perm credits ∧
    (∀ arranged, (∃ placed, SortedByName credits arranged placed) ↔ arranged = sorted) ∧
    byName.arrange sorted = sorted ∧
    ∀ a b : Credit, lowered a < lowered b ↔
      List.Lex (· < ·) (encode (lowered a).toList) (encode (lowered b).toList) := by
  intro sorted
  obtain ⟨placed, hs⟩ := exists_sortedByName credits
  refine ⟨rfl, List.mergeSort_perm _ _, ?_, ?_, ?_⟩
  · intro arranged
    constructor
    · intro ⟨placed', h⟩
      exact h.unique hs
    · intro h
      rw [h]
      exact ⟨placed, hs⟩
  · exact List.mergeSort_of_pairwise (pairwise_before credits)
  · intro a b
    exact Text.Utf8.lt_iff_lex_encode

end CreditRoll.Order
