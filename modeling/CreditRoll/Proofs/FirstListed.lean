import CreditRoll.Collection
import Mathlib.Data.List.Basic

namespace CreditRoll.Collection

/-- A listing without the entries whose login occurs in an earlier entry. -/
def firstListed (entries : List Entry) : List Entry :=
  (entries.zipIdx.filter fun p ↦ p.1.login ∉ (entries.take p.2).map (·.login)).map (·.1)

def fresh (seen : List String) : List Entry → List Entry
  | [] => []
  | entry :: entries =>
    if entry.login ∈ seen then fresh seen entries
    else entry :: fresh (entry.login :: seen) entries

theorem fresh_congr {seen seen' : List String} (h : ∀ login, login ∈ seen ↔ login ∈ seen')
    (entries : List Entry) : fresh seen entries = fresh seen' entries := by
  induction entries generalizing seen seen' with
  | nil => rfl
  | cons entry entries ih =>
    simp only [fresh, h entry.login]
    have hc : ∀ login, login ∈ entry.login :: seen ↔ login ∈ entry.login :: seen' := by
      simp only [List.mem_cons, h, implies_true]
    rw [ih h, ih hc]

theorem fresh_logins (before entries : List Entry) :
    fresh (before.map (·.login)) entries =
      ((entries.zipIdx before.length).filter fun p ↦
        p.1.login ∉ ((before ++ entries).take p.2).map (·.login)).map (·.1) := by
  induction entries generalizing before with
  | nil => rfl
  | cons entry entries ih =>
    have hi := ih (before ++ [entry])
    have hs : fresh ((before ++ [entry]).map (·.login)) entries =
        fresh (entry.login :: before.map (·.login)) entries :=
      fresh_congr (fun login ↦ by simp [or_comm]) entries
    rw [hs, List.length_append, List.append_assoc] at hi
    by_cases hm : entry.login ∈ before.map (·.login)
    · have hd : fresh (entry.login :: before.map (·.login)) entries =
          fresh (before.map (·.login)) entries :=
        fresh_congr (fun login ↦
          ⟨fun h ↦ (List.mem_cons.1 h).elim (· ▸ hm) id, List.mem_cons_of_mem _⟩) entries
      rw [fresh, if_pos hm, ← hd, hi, List.zipIdx_cons, List.filter_cons,
        if_neg (by simpa using hm)]
      rfl
    · rw [fresh, if_neg hm, hi, List.zipIdx_cons, List.filter_cons, if_pos (by simpa using hm)]
      rfl

theorem firstListed_eq_fresh (entries : List Entry) : firstListed entries = fresh [] entries :=
  (fresh_logins [] entries).symm

theorem mem_of_mem_firstListed {entries : List Entry} {entry : Entry}
    (h : entry ∈ firstListed entries) : entry ∈ entries := by
  obtain ⟨p, hp, rfl⟩ := List.mem_map.1 h
  exact List.fst_mem_of_mem_zipIdx (List.mem_filter.1 hp).1

theorem login_notMem_of_mem_fresh {seen : List String} {entries : List Entry} {entry : Entry}
    (h : entry ∈ fresh seen entries) : entry.login ∉ seen := by
  induction entries generalizing seen with
  | nil => cases h
  | cons first entries ih =>
    rw [fresh] at h
    split at h
    · exact ih h
    · next hn =>
      rcases List.mem_cons.1 h with rfl | h
      · exact hn
      · exact fun hm ↦ ih h (List.mem_cons_of_mem _ hm)

theorem nodup_fresh (seen : List String) (entries : List Entry) :
    ((fresh seen entries).map (·.login)).Nodup := by
  induction entries generalizing seen with
  | nil => exact List.nodup_nil
  | cons entry entries ih =>
    rw [fresh]
    split
    · exact ih seen
    · refine List.nodup_cons.2 ⟨fun hm ↦ ?_, ih _⟩
      obtain ⟨other, ho, he⟩ := List.mem_map.1 hm
      exact login_notMem_of_mem_fresh ho (he ▸ List.mem_cons_self)

theorem mem_logins_fresh {seen : List String} {entries : List Entry} {login : String} :
    login ∈ (fresh seen entries).map (·.login) ↔
      login ∈ entries.map (·.login) ∧ login ∉ seen := by
  induction entries generalizing seen with
  | nil => simp [fresh]
  | cons entry entries ih =>
    rw [fresh]
    split
    · next hs =>
      rw [ih, List.map_cons, List.mem_cons]
      constructor
      · rintro ⟨hm, hn⟩
        exact ⟨.inr hm, hn⟩
      · rintro ⟨rfl | hm, hn⟩
        · exact absurd hs hn
        · exact ⟨hm, hn⟩
    · next hs =>
      simp only [List.map_cons, List.mem_cons, ih, not_or]
      constructor
      · rintro (rfl | ⟨hm, -, hn⟩)
        · exact ⟨.inl rfl, hs⟩
        · exact ⟨.inr hm, hn⟩
      · rintro ⟨rfl | hm, hn⟩
        · exact .inl rfl
        · by_cases he : login = entry.login
          · exact .inl he
          · exact .inr ⟨hm, he, hn⟩

theorem find?_of_mem_fresh {seen : List String} {entries : List Entry} {entry : Entry}
    (h : entry ∈ fresh seen entries) :
    entries.find? (·.login == entry.login) = some entry := by
  induction entries generalizing seen with
  | nil => cases h
  | cons first entries ih =>
    have hn := login_notMem_of_mem_fresh h
    rw [fresh] at h
    split at h
    · next hs =>
      have hne : first.login ≠ entry.login := fun he ↦ hn (he ▸ hs)
      rw [List.find?_cons_of_neg (by simpa using hne)]
      exact ih h
    · rcases List.mem_cons.1 h with rfl | h
      · exact List.find?_cons_of_pos (by simp)
      · have hne : first.login ≠ entry.login := fun he ↦
          login_notMem_of_mem_fresh h (he ▸ List.mem_cons_self)
        rw [List.find?_cons_of_neg (by simpa using hne)]
        exact ih h

end CreditRoll.Collection
