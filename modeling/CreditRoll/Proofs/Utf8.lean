import CreditRoll.Text.Utf8
import Mathlib.Data.Char
import Mathlib.Data.List.Lex
import Mathlib.Tactic.IntervalCases

namespace CreditRoll

/-- What reads each of some values back from its written form does so for all of them. -/
theorem mapM_map_eq_some {α β : Type} {write : α → β} {read? : β → Option α} {xs : List α}
    (h : ∀ x ∈ xs, read? (write x) = some x) : (xs.map write).mapM read? = some xs := by
  induction xs with
  | nil => rfl
  | cons x xs ih =>
    obtain ⟨hx, hs⟩ := List.forall_mem_cons.1 h
    rw [List.map_cons, List.mapM_cons, hx, ih hs]
    rfl

namespace Text.Utf8

theorem toNat_ofNat {n : Nat} (hn : n < 256) : (UInt8.ofNat n).toNat = n := by
  rw [UInt8.toNat_ofNat', Nat.mod_eq_of_lt hn]

theorem start_one {n : Nat} (hn : n < 0x80) :
    start (UInt8.ofNat n) = .inl (some (Char.ofNat n)) := by
  have hv : (UInt8.ofNat n).toNat = n := toNat_ofNat (by omega)
  have hl : UInt8.ofNat n < 0x80 := by
    rw [UInt8.lt_iff_toNat_lt, hv]
    exact hn
  simp only [start, if_pos hl, hv]

theorem start_two {n : Nat} (hl : 2 ≤ n) (hh : n < 32) :
    start (UInt8.ofNat (n + 0xC0)) = .inr ⟨1, 0x80, 0xBF, n⟩ := by
  interval_cases n <;> rfl

theorem start_three {n : Nat} (hn : n < 16) :
    start (UInt8.ofNat (n + 0xE0)) =
      .inr ⟨2, if n = 0 then 0xA0 else 0x80, if n = 0xD then 0x9F else 0xBF, n⟩ := by
  interval_cases n <;> rfl

theorem start_four {n : Nat} (hn : n < 5) :
    start (UInt8.ofNat (n + 0xF0)) =
      .inr ⟨3, if n = 0 then 0x90 else 0x80, if n = 4 then 0x8F else 0xBF, n⟩ := by
  interval_cases n <;> rfl

/-- A byte that continues a character adds its six bits to the value. -/
theorem next_tail (p : Pending) {k : Nat} (hk : k < 64) (hl : p.low.toNat ≤ k + 0x80)
    (hh : k + 0x80 ≤ p.high.toNat) :
    p.next (UInt8.ofNat (k + 0x80)) =
      if p.missing ≤ 1 then some (.inl (Char.ofNat (64 * p.value + k)))
      else some (.inr ⟨p.missing - 1, 0x80, 0xBF, 64 * p.value + k⟩) := by
  have hn : (UInt8.ofNat (k + 0x80)).toNat = k + 0x80 := toNat_ofNat (by omega)
  have hr : (p.low ≤ UInt8.ofNat (k + 0x80) && UInt8.ofNat (k + 0x80) ≤ p.high) = true := by
    simp only [UInt8.le_iff_toNat_le, hn, hl, hh, decide_true, Bool.and_self]
  simp only [Pending.next, hr, hn, if_true, Nat.add_sub_cancel]

theorem scan_last {low high : UInt8} {k v : Nat} (hk : k < 64) (hl : low.toNat ≤ k + 0x80)
    (hh : k + 0x80 ≤ high.toNat) (rest : List UInt8) :
    scanFrom (some ⟨1, low, high, v⟩) (UInt8.ofNat (k + 0x80) :: rest) =
      some (Char.ofNat (64 * v + k)) :: scanFrom none rest := by
  simp only [scanFrom, next_tail ⟨1, low, high, v⟩ hk hl hh, Nat.le_refl, if_true]

theorem scan_tail {low high : UInt8} {m k v : Nat} (hk : k < 64) (hl : low.toNat ≤ k + 0x80)
    (hh : k + 0x80 ≤ high.toNat) (rest : List UInt8) :
    scanFrom (some ⟨m + 2, low, high, v⟩) (UInt8.ofNat (k + 0x80) :: rest) =
      scanFrom (some ⟨m + 1, 0x80, 0xBF, 64 * v + k⟩) rest := by
  have hm : ¬ m + 2 ≤ 1 := by omega
  simp only [scanFrom, next_tail ⟨m + 2, low, high, v⟩ hk hl hh, hm, if_false]
  rfl

theorem tail_lt (n : Nat) : n % 64 < 64 := Nat.mod_lt n (by decide)

theorem low_le_tail (n : Nat) : (0x80 : UInt8).toNat ≤ n % 64 + 0x80 := Nat.le_add_left _ _

theorem tail_le_high (n : Nat) : n % 64 + 0x80 ≤ (0xBF : UInt8).toNat :=
  Nat.add_le_add_right (Nat.le_of_lt_succ (tail_lt n)) 0x80

theorem tail_join (n m : Nat) : 64 * (n / (64 * m)) + n / m % 64 = n / m := by
  rw [Nat.mul_comm 64 m, ← Nat.div_div_eq_div_mul, Nat.div_add_mod]

theorem scan_two {v : Nat} (hl : 0x7F < v) (hh : v ≤ 0x7FF) (rest : List UInt8) :
    scanFrom none (UInt8.ofNat (v / 64 + 0xC0) :: UInt8.ofNat (v % 64 + 0x80) :: rest) =
      some (Char.ofNat v) :: scanFrom none rest := by
  rw [scanFrom, start_two (by omega) (by omega)]
  simp only [scan_last (tail_lt v) (low_le_tail v) (tail_le_high v), Nat.div_add_mod]

theorem low_ite {p : Prop} [Decidable p] {b : UInt8} {n : Nat} (h : p → b.toNat ≤ n % 64 + 0x80) :
    (if p then b else 0x80).toNat ≤ n % 64 + 0x80 := by
  split
  · next hp => exact h hp
  · exact low_le_tail n

theorem high_ite {p : Prop} [Decidable p] {b : UInt8} {n : Nat}
    (h : p → n % 64 + 0x80 ≤ b.toNat) :
    n % 64 + 0x80 ≤ (if p then b else 0xBF).toNat := by
  split
  · next hp => exact h hp
  · exact tail_le_high n

/-- The second byte decides against overlong forms and surrogates. -/
theorem scan_three {v : Nat} (hl : 0x7FF < v) (hh : v ≤ 0xFFFF) (hc : v < 0xD800 ∨ 0xDFFF < v)
    (rest : List UInt8) :
    scanFrom none (UInt8.ofNat (v / 4096 + 0xE0) :: UInt8.ofNat (v / 64 % 64 + 0x80) ::
      UInt8.ofNat (v % 64 + 0x80) :: rest) = some (Char.ofNat v) :: scanFrom none rest := by
  have hl₂ : v / 4096 = 0 → (0xA0 : UInt8).toNat ≤ v / 64 % 64 + 0x80 := by
    show _ → 0xA0 ≤ _
    omega
  have hh₂ : v / 4096 = 0xD → v / 64 % 64 + 0x80 ≤ (0x9F : UInt8).toNat := by
    show _ → _ ≤ 0x9F
    omega
  rw [scanFrom, start_three (by omega)]
  simp only [scan_tail (m := 0) (tail_lt _) (low_ite hl₂) (high_ite hh₂), Nat.zero_add,
    tail_join v 64, scan_last (tail_lt v) (low_le_tail v) (tail_le_high v), Nat.div_add_mod]

theorem scan_four {v : Nat} (hl : 0xFFFF < v) (hh : v < 0x110000) (rest : List UInt8) :
    scanFrom none (UInt8.ofNat (v / 262144 + 0xF0) :: UInt8.ofNat (v / 4096 % 64 + 0x80) ::
      UInt8.ofNat (v / 64 % 64 + 0x80) :: UInt8.ofNat (v % 64 + 0x80) :: rest) =
      some (Char.ofNat v) :: scanFrom none rest := by
  have hl₂ : v / 262144 = 0 → (0x90 : UInt8).toNat ≤ v / 4096 % 64 + 0x80 := by
    show _ → 0x90 ≤ _
    omega
  have hh₂ : v / 262144 = 4 → v / 4096 % 64 + 0x80 ≤ (0x8F : UInt8).toNat := by
    show _ → _ ≤ 0x8F
    omega
  rw [scanFrom, start_four (by omega)]
  simp only [scan_tail (m := 1) (tail_lt _) (low_ite hl₂) (high_ite hh₂), Nat.zero_add,
    tail_join v 4096, scan_tail (m := 0) (tail_lt _) (low_le_tail _) (tail_le_high _), tail_join v 64,
    scan_last (tail_lt v) (low_le_tail v) (tail_le_high v), Nat.div_add_mod]

/-- A character is read back from its bytes, whatever follows them. -/
theorem scan_char (c : Char) (rest : List UInt8) :
    scanFrom none (String.utf8EncodeChar c ++ rest) = some c :: scanFrom none rest := by
  have hv : Char.ofNat c.val.toNat = c := Char.ofNat_toNat c
  have hc : c.val.toNat < 0xD800 ∨ 0xDFFF < c.val.toNat ∧ c.val.toNat < 0x110000 := c.valid
  rw [String.utf8EncodeChar]
  generalize c.val.toNat = v at hv hc
  subst hv
  by_cases h₁ : v ≤ 0x7F
  · simp only [if_pos h₁, List.cons_append, List.nil_append, scanFrom,
      start_one (Nat.lt_succ_of_le h₁)]
  by_cases h₂ : v ≤ 0x7FF
  · have hf : v / 64 % 0x20 = v / 64 := Nat.mod_eq_of_lt (by omega)
    simp only [if_neg h₁, if_pos h₂, hf, List.cons_append, List.nil_append]
    exact scan_two (by omega) h₂ rest
  by_cases h₃ : v ≤ 0xFFFF
  · have hf : v / 4096 % 0x10 = v / 4096 := Nat.mod_eq_of_lt (by omega)
    simp only [if_neg h₁, if_neg h₂, if_pos h₃, hf, List.cons_append, List.nil_append]
    exact scan_three (by omega) h₃ (by omega) rest
  · have hf : v / 262144 % 0x08 = v / 262144 := Nat.mod_eq_of_lt (by omega)
    simp only [if_neg h₁, if_neg h₂, if_neg h₃, hf, List.cons_append, List.nil_append]
    exact scan_four (by omega) (by omega) rest

theorem scan_encode (s : List Char) : scan (encode s) = s.map some := by
  induction s with
  | nil => rfl
  | cons c s ih =>
    have hs := scan_char c (encode s)
    simp only [scan] at ih
    simp only [scan, encode, List.flatMap_cons, List.map_cons] at hs ⊢
    rw [hs]
    exact congrArg (some c :: ·) ih

theorem decodeLossy_encode (s : List Char) : decodeLossy (encode s) = s := by
  rw [decodeLossy, scan_encode, List.map_map]
  exact List.map_id s

theorem decode?_encode (s : List Char) : decode? (encode s) = some s := by
  rw [decode?, scan_encode]
  exact mapM_map_eq_some fun _ _ ↦ rfl

theorem toNat_val_ofNat {n : Nat} (h : n < 0xD800 ∨ 0xDFFF < n ∧ n < 0x110000) :
    (Char.ofNat n).val.toNat = n := by
  have hv : n.isValidChar := h
  rw [Char.ofNat, dif_pos hv]
  rfl

theorem start_cases (b : UInt8) :
    b.toNat < 0x80 ∨ start b = .inl none ∨ (∃ n, 2 ≤ n ∧ n < 32 ∧ b = UInt8.ofNat (n + 0xC0)) ∨
      (∃ n < 16, b = UInt8.ofNat (n + 0xE0)) ∨ ∃ n < 5, b = UInt8.ofNat (n + 0xF0) := by
  have hb (m : Nat) (h : m ≤ b.toNat) : b = UInt8.ofNat (b.toNat - m + m) := by
    rw [Nat.sub_add_cancel h, UInt8.ofNat_toNat]
  have hn (h : 0x80 ≤ b.toNat) (h' : b.toNat < 0xC2 ∨ 0xF5 ≤ b.toNat) : start b = .inl none := by
    simp only [start, UInt8.lt_iff_toNat_lt, ← UInt8.toNat_inj, UInt8.reduceToNat]
    rw [if_neg (by omega)]
    rcases h' with h' | h'
    · rw [if_pos h']
    · repeat rw [if_neg (by omega)]
  by_cases h₁ : b.toNat < 0x80
  · exact .inl h₁
  by_cases h₂ : b.toNat < 0xC2 ∨ 0xF5 ≤ b.toNat
  · exact .inr (.inl (hn (by omega) h₂))
  by_cases h₃ : b.toNat < 0xE0
  · exact .inr (.inr (.inl ⟨b.toNat - 0xC0, by omega, by omega, hb _ (by omega)⟩))
  by_cases h₄ : b.toNat < 0xF0
  · exact .inr (.inr (.inr (.inl ⟨b.toNat - 0xE0, by omega, hb _ (by omega)⟩)))
  · exact .inr (.inr (.inr (.inr ⟨b.toNat - 0xF0, by omega, hb _ (by omega)⟩)))

/-- Nothing but a byte in its range continues a character. -/
theorem exists_tail {m : Nat} {low high : UInt8} {v : Nat} {bytes : List UInt8} {s : List Char}
    (h : (scanFrom (some ⟨m, low, high, v⟩) bytes).mapM id = some s) (hl : 0x80 ≤ low.toNat)
    (hh : high.toNat ≤ 0xBF) :
    ∃ k rest, bytes = UInt8.ofNat (k + 0x80) :: rest ∧ k < 64 ∧ low.toNat ≤ k + 0x80 ∧
      k + 0x80 ≤ high.toNat := by
  cases bytes with
  | nil => simp [scanFrom] at h
  | cons b rest =>
    by_cases hr : (low ≤ b && b ≤ high) = true
    · simp only [Bool.and_eq_true, decide_eq_true_eq, UInt8.le_iff_toNat_le] at hr
      refine ⟨b.toNat - 0x80, rest, ?_, by omega, by omega, by omega⟩
      rw [Nat.sub_add_cancel (by omega), UInt8.ofNat_toNat]
    · have hn : (⟨m, low, high, v⟩ : Pending).next b = none := by
        simp only [Pending.next, hr]
        rfl
      simp [scanFrom, hn] at h

theorem exists_of_mapM_cons {c : Char} {scanned : List (Option Char)} {s : List Char}
    (h : (some c :: scanned).mapM id = some s) : ∃ t, s = c :: t ∧ scanned.mapM id = some t := by
  rw [List.mapM_cons] at h
  cases ht : scanned.mapM id with
  | none => simp [ht] at h
  | some t =>
    rw [ht] at h
    cases h
    exact ⟨t, rfl, rfl⟩

theorem exists_of_scan_last {low high : UInt8} {v : Nat} {bytes : List UInt8} {s : List Char}
    (h : (scanFrom (some ⟨1, low, high, v⟩) bytes).mapM id = some s) (hl : 0x80 ≤ low.toNat)
    (hh : high.toNat ≤ 0xBF) :
    ∃ k rest t, bytes = UInt8.ofNat (k + 0x80) :: rest ∧ k < 64 ∧ low.toNat ≤ k + 0x80 ∧
      k + 0x80 ≤ high.toNat ∧ s = Char.ofNat (64 * v + k) :: t ∧
      (scanFrom none rest).mapM id = some t := by
  obtain ⟨k, rest, rfl, hk, hkl, hkh⟩ := exists_tail h hl hh
  rw [scan_last hk hkl hkh] at h
  obtain ⟨t, hs, ht⟩ := exists_of_mapM_cons h
  exact ⟨k, rest, t, rfl, hk, hkl, hkh, hs, ht⟩

theorem exists_of_scan_tail {low high : UInt8} {m v : Nat} {bytes : List UInt8} {s : List Char}
    (h : (scanFrom (some ⟨m + 2, low, high, v⟩) bytes).mapM id = some s) (hl : 0x80 ≤ low.toNat)
    (hh : high.toNat ≤ 0xBF) :
    ∃ k rest, bytes = UInt8.ofNat (k + 0x80) :: rest ∧ k < 64 ∧ low.toNat ≤ k + 0x80 ∧
      k + 0x80 ≤ high.toNat ∧
      (scanFrom (some ⟨m + 1, 0x80, 0xBF, 64 * v + k⟩) rest).mapM id = some s := by
  obtain ⟨k, rest, rfl, hk, hkl, hkh⟩ := exists_tail h hl hh
  rw [scan_tail hk hkl hkh] at h
  exact ⟨k, rest, rfl, hk, hkl, hkh, h⟩

theorem encodeChar_one {n : Nat} (h : n < 0x80) :
    String.utf8EncodeChar (Char.ofNat n) = [UInt8.ofNat n] := by
  rw [String.utf8EncodeChar, toNat_val_ofNat (by omega)]
  exact if_pos (by omega)

theorem encodeChar_two {n k : Nat} (hn : 2 ≤ n ∧ n < 32) (hk : k < 64) :
    String.utf8EncodeChar (Char.ofNat (64 * n + k)) =
      [UInt8.ofNat (n + 0xC0), UInt8.ofNat (k + 0x80)] := by
  have h₁ : (64 * n + k) / 64 % 32 = n := by omega
  have h₂ : (64 * n + k) % 64 = k := by omega
  simp only [String.utf8EncodeChar, toNat_val_ofNat (n := 64 * n + k) (by omega), h₁, h₂]
  rw [if_neg (by omega), if_pos (by omega)]

theorem encodeChar_three {n k l : Nat} (hn : n < 16) (hk : k < 64) (hl : l < 64)
    (h : 0x800 ≤ 64 * (64 * n + k) + l)
    (hc : 64 * (64 * n + k) + l < 0xD800 ∨ 0xDFFF < 64 * (64 * n + k) + l) :
    String.utf8EncodeChar (Char.ofNat (64 * (64 * n + k) + l)) =
      [UInt8.ofNat (n + 0xE0), UInt8.ofNat (k + 0x80), UInt8.ofNat (l + 0x80)] := by
  have h₁ : (64 * (64 * n + k) + l) / 4096 % 16 = n := by omega
  have h₂ : (64 * (64 * n + k) + l) / 64 % 64 = k := by omega
  have h₃ : (64 * (64 * n + k) + l) % 64 = l := by omega
  simp only [String.utf8EncodeChar, toNat_val_ofNat (n := 64 * (64 * n + k) + l) (by omega),
    h₁, h₂, h₃]
  rw [if_neg (by omega), if_neg (by omega), if_pos (by omega)]

theorem encodeChar_four {n k l i : Nat} (hk : k < 64) (hl : l < 64) (hi : i < 64)
    (h : 0x10000 ≤ 64 * (64 * (64 * n + k) + l) + i)
    (hc : 64 * (64 * (64 * n + k) + l) + i < 0x110000) :
    String.utf8EncodeChar (Char.ofNat (64 * (64 * (64 * n + k) + l) + i)) =
      [UInt8.ofNat (n + 0xF0), UInt8.ofNat (k + 0x80), UInt8.ofNat (l + 0x80),
        UInt8.ofNat (i + 0x80)] := by
  have h₁ : (64 * (64 * (64 * n + k) + l) + i) / 262144 % 8 = n := by omega
  have h₂ : (64 * (64 * (64 * n + k) + l) + i) / 4096 % 64 = k := by omega
  have h₃ : (64 * (64 * (64 * n + k) + l) + i) / 64 % 64 = l := by omega
  have h₄ : (64 * (64 * (64 * n + k) + l) + i) % 64 = i := by omega
  simp only [String.utf8EncodeChar,
    toNat_val_ofNat (n := 64 * (64 * (64 * n + k) + l) + i) (by omega), h₁, h₂, h₃, h₄]
  rw [if_neg (by omega), if_neg (by omega), if_neg (by omega)]

/-- The bytes of the character at the front can be told from the first of them. -/
theorem eq_encode_of_scan {bytes : List UInt8} {s : List Char}
    (h : (scanFrom none bytes).mapM id = some s) : bytes = encode s := by
  match bytes with
  | [] =>
    cases h
    rfl
  | b :: rest =>
    have hcons {c : Char} {front tail : List UInt8} {t : List Char}
        (hf : String.utf8EncodeChar c = front) (ht : tail = encode t) :
        front ++ tail = encode (c :: t) := by
      rw [ht, ← hf]
      rfl
    rcases start_cases b with hb | hb | ⟨n, hn, hn', rfl⟩ | ⟨n, hn, rfl⟩ | ⟨n, hn, rfl⟩
    · have hs : start b = .inl (some (Char.ofNat b.toNat)) := by
        have h₁ := start_one hb
        rwa [UInt8.ofNat_toNat] at h₁
      rw [scanFrom, hs] at h
      obtain ⟨t, rfl, ht⟩ := exists_of_mapM_cons h
      have he := encodeChar_one hb
      rw [UInt8.ofNat_toNat] at he
      exact hcons he (eq_encode_of_scan ht)
    · simp [scanFrom, hb] at h
    · rw [scanFrom, start_two hn hn'] at h
      obtain ⟨k, tail, t, rfl, hk, -, -, rfl, ht⟩ := exists_of_scan_last h (by decide) (by decide)
      exact hcons (encodeChar_two ⟨hn, hn'⟩ hk) (eq_encode_of_scan ht)
    · rw [scanFrom, start_three hn] at h
      obtain ⟨k, tail, rfl, hk, hkl, hkh, h⟩ :=
        exists_of_scan_tail (m := 0) h (by split <;> decide) (by split <;> decide)
      obtain ⟨l, tail, t, rfl, hl, -, -, rfl, ht⟩ := exists_of_scan_last h (by decide) (by decide)
      have hlow : n = 0 → 0x20 ≤ k := by
        rintro rfl
        exact Nat.le_of_add_le_add_right (b := 0x80) hkl
      have hhigh : n = 0xD → k ≤ 0x1F := by
        rintro rfl
        exact Nat.le_of_add_le_add_right (b := 0x80) hkh
      exact hcons (encodeChar_three hn hk hl (by omega) (by omega)) (eq_encode_of_scan ht)
    · rw [scanFrom, start_four hn] at h
      obtain ⟨k, tail, rfl, hk, hkl, hkh, h⟩ :=
        exists_of_scan_tail (m := 1) h (by split <;> decide) (by split <;> decide)
      obtain ⟨l, tail, rfl, hl, -, -, h⟩ :=
        exists_of_scan_tail (m := 0) h (by decide) (by decide)
      obtain ⟨i, tail, t, rfl, hi, -, -, rfl, ht⟩ := exists_of_scan_last h (by decide) (by decide)
      have hlow : n = 0 → 0x10 ≤ k := by
        rintro rfl
        exact Nat.le_of_add_le_add_right (b := 0x80) hkl
      have hhigh : n = 4 → k ≤ 0xF := by
        rintro rfl
        exact Nat.le_of_add_le_add_right (b := 0x80) hkh
      exact hcons (encodeChar_four hk hl hi (by omega) (by omega)) (eq_encode_of_scan ht)
termination_by bytes.length

theorem decode?_eq_some_iff {bytes : List UInt8} {s : List Char} :
    decode? bytes = some s ↔ bytes = encode s := by
  constructor
  · intro h
    exact eq_encode_of_scan h
  · rintro rfl
    exact decode?_encode s

/-- Whether the first sequence has the lesser byte at the first place where the two differ. -/
def Below : List UInt8 → List UInt8 → Prop
  | a :: s, b :: t => a < b ∨ a = b ∧ Below s t
  | _, _ => False

theorem lex_of_below {s t : List UInt8} (h : Below s t) (s' t' : List UInt8) :
    List.Lex (· < ·) (s ++ s') (t ++ t') := by
  induction s generalizing t with
  | nil => exact h.elim
  | cons a s ih =>
    cases t with
    | nil => exact h.elim
    | cons b t =>
      rcases h with h | ⟨rfl, h⟩
      · exact .rel h
      · exact .cons (ih h)

/-- The first byte grows with the number of bytes, and among as many bytes each is a digit of the
value, the highest first. -/
theorem below_of_lt {c d : Char} (h : c < d) :
    Below (String.utf8EncodeChar c) (String.utf8EncodeChar d) := by
  have hlt : c.val.toNat < d.val.toNat := h
  have hd : d.val.toNat < 0x110000 := by
    rcases d.valid with h | h <;> omega
  rw [String.utf8EncodeChar, String.utf8EncodeChar]
  generalize c.val.toNat = v at hlt
  generalize d.val.toNat = w at hlt hd
  repeat' split
  all_goals
    simp (disch := omega) only [Below, UInt8.lt_iff_toNat_lt, ← UInt8.toNat_inj,
      UInt8.toNat_ofNat', Nat.mod_eq_of_lt, Nat.add_lt_add_iff_right, Nat.add_right_cancel_iff,
      and_false, or_false]
    omega

theorem encode_cons (c : Char) (s : List Char) :
    encode (c :: s) = String.utf8EncodeChar c ++ encode s := List.flatMap_cons

theorem lex_encode {s t : List Char} (h : List.Lex (· < ·) s t) :
    List.Lex (· < ·) (encode s) (encode t) := by
  induction h with
  | @nil c t =>
    have hne : encode (c :: t) ≠ [] := by
      rw [encode_cons]
      exact List.append_ne_nil_of_left_ne_nil String.utf8EncodeChar_ne_nil _
    obtain ⟨b, bs, hb⟩ := List.exists_cons_of_ne_nil hne
    rw [hb]
    exact .nil
  | cons _ ih =>
    rw [encode_cons, encode_cons]
    exact List.Lex.append_left _ ih _
  | rel h =>
    rw [encode_cons, encode_cons]
    exact lex_of_below (below_of_lt h) _ _

/-- Texts compare by their characters as they do by their bytes. -/
theorem lt_iff_lex_encode {s t : String} :
    s < t ↔ List.Lex (· < ·) (encode s.toList) (encode t.toList) := by
  rw [String.lt_iff]
  constructor
  · intro h
    exact lex_encode h
  · intro h
    rcases trichotomous_of (List.Lex (· < ·)) s.toList t.toList with hs | hs | hs
    · exact hs
    · rw [hs] at h
      exact absurd h (irrefl _)
    · exact absurd (lex_encode hs) (asymm h)

end Text.Utf8

end CreditRoll
