import CreditRoll.Proofs.Utf8
import CreditRoll.Url.Address

namespace CreditRoll.Url.Segment

open Json.Token (hexValue?)

def stands (c : Char) : Bool := c.toNat < 0x80 && keeps (UInt8.ofNat c.toNat)

def encodeChar (c : Char) : List Char := (String.utf8EncodeChar c).flatMap encodeByte

theorem toList_encode (s : String) : (encode s).toList = s.toList.flatMap encodeChar := by
  rw [encode, String.toList_ofList, Text.Utf8.encode, List.flatMap_assoc]
  rfl

theorem utf8EncodeChar_ascii {c : Char} (h : c.toNat < 0x80) :
    String.utf8EncodeChar c = [UInt8.ofNat c.toNat] := by
  have hv : c.val.toNat ≤ 0x7F := Nat.le_of_lt_succ h
  rw [String.utf8EncodeChar]
  exact if_pos hv

theorem le_of_mem_utf8EncodeChar {c : Char} (hc : 0x80 ≤ c.toNat) {b : UInt8}
    (h : b ∈ String.utf8EncodeChar c) : 0x80 ≤ b.toNat := by
  have hn : ¬ c.val.toNat ≤ 0x7F := Nat.not_le_of_lt hc
  rw [String.utf8EncodeChar] at h
  simp only [if_neg hn] at h
  split at h
  · simp only [List.mem_cons, List.not_mem_nil, or_false] at h
    rcases h with rfl | rfl <;> rw [UInt8.toNat_ofNat'] <;> omega
  split at h <;> simp only [List.mem_cons, List.not_mem_nil, or_false] at h
  · rcases h with rfl | rfl | rfl <;> rw [UInt8.toNat_ofNat'] <;> omega
  · rcases h with rfl | rfl | rfl | rfl <;> rw [UInt8.toNat_ofNat'] <;> omega

theorem lt_of_keeps {b : UInt8} (h : keeps b = true) : 0x20 < b.toNat ∧ b.toNat < 0x7F := by
  simp only [keeps, Bool.and_eq_true, decide_eq_true_eq, UInt8.le_iff_toNat_le] at h
  exact ⟨h.1.1, Nat.lt_succ_of_le h.1.2⟩

theorem stands_ofNat {b : UInt8} (h : keeps b = true) :
    stands (Char.ofNat b.toNat) = true ∧ String.utf8EncodeChar (Char.ofNat b.toNat) = [b] := by
  have hb := (lt_of_keeps h).2
  have hn : (Char.ofNat b.toNat).toNat = b.toNat := by
    rw [Char.ofNat, dif_pos (.inl (by omega))]
    rfl
  rw [stands, utf8EncodeChar_ascii (by omega), hn, UInt8.ofNat_toNat, h]
  exact ⟨by simpa using Nat.lt_succ_of_lt hb, rfl⟩

theorem encodeChar_of_stands {c : Char} (h : stands c = true) : encodeChar c = [c] := by
  simp only [stands, Bool.and_eq_true, decide_eq_true_eq] at h
  have hv : (UInt8.ofNat c.toNat).toNat = c.toNat := Text.Utf8.toNat_ofNat (by omega)
  rw [encodeChar, utf8EncodeChar_ascii h.1]
  simp only [List.flatMap_cons, List.flatMap_nil, encodeByte, h.2, if_true, hv, Char.ofNat_toNat,
    List.append_nil]

theorem encode_eq_self {s : String} (h : ∀ c ∈ s.toList, stands c = true) : encode s = s := by
  rw [← String.toList_inj, toList_encode]
  exact (List.flatMap_congr fun c hc ↦ encodeChar_of_stands (h c hc)).trans
    (List.flatMap_singleton' s.toList)

theorem keeps_of_not_stands {c : Char} (h : stands c = false) {b : UInt8}
    (hb : b ∈ String.utf8EncodeChar c) : keeps b = false := by
  rcases Nat.lt_or_ge c.toNat 0x80 with hc | hc
  · rw [utf8EncodeChar_ascii hc, List.mem_singleton] at hb
    simpa [stands, hc, hb] using h
  · have hl := le_of_mem_utf8EncodeChar hc hb
    refine Bool.eq_false_iff.2 fun hk ↦ ?_
    have := (lt_of_keeps hk).2
    omega

theorem hexDigit_spec {n : Nat} (h : n < 16) :
    stands (hexDigit n) = true ∧ hexDigit n ≠ '\\' ∧ hexValue? (hexDigit n) = some n := by
  have hd : ∀ n < 16, stands (hexDigit n) = true ∧ hexDigit n ≠ '\\' ∧
      hexValue? (hexDigit n) = some n := by decide
  exact hd n h

theorem nibbles (b : UInt8) : b.toNat / 16 < 16 ∧ b.toNat % 16 < 16 := by
  have := b.toNat_lt
  omega

/-- Nothing but the sign of an escape and what stands for itself is ever written. -/
theorem mem_encodeByte {b : UInt8} {d : Char} (h : d ∈ encodeByte b) :
    d = '%' ∨ stands d = true := by
  rw [encodeByte] at h
  split at h
  · next hk =>
    rw [List.mem_singleton.1 h]
    exact .inr (stands_ofNat hk).1
  · simp only [List.mem_cons, List.not_mem_nil, or_false] at h
    rcases h with rfl | rfl | rfl
    · exact .inl rfl
    · exact .inr (hexDigit_spec (nibbles b).1).1
    · exact .inr (hexDigit_spec (nibbles b).2).1

theorem mem_encode {s : String} {d : Char} (h : d ∈ (encode s).toList) :
    d = '%' ∨ stands d = true := by
  rw [encode, String.toList_ofList] at h
  obtain ⟨b, -, hb⟩ := List.mem_flatMap.1 h
  exact mem_encodeByte hb

theorem visible_of_stands {c : Char} (h : stands c = true) : 0x20 < c.toNat ∧ c.toNat < 0x7F := by
  simp only [stands, Bool.and_eq_true, decide_eq_true_eq] at h
  have hv : (UInt8.ofNat c.toNat).toNat = c.toNat := Text.Utf8.toNat_ofNat (by omega)
  exact hv ▸ lt_of_keeps h.2

theorem visible_of_mem_encode {s : String} {d : Char} (h : d ∈ (encode s).toList) :
    0x20 < d.toNat ∧ d.toNat < 0x7F := by
  rcases mem_encode h with rfl | h
  · decide
  · exact visible_of_stands h

theorem ne_of_mem_encode {s : String} {d e : Char} (h : d ∈ (encode s).toList)
    (he : stands e = false) (hp : e ≠ '%') : d ≠ e := by
  rintro rfl
  exact (mem_encode h).elim hp fun hs ↦ Bool.noConfusion (hs.symm.trans he)

theorem backslash_mem_encode {s : String} : '\\' ∈ (encode s).toList ↔ '\\' ∈ s.toList := by
  have hc (c : Char) : '\\' ∈ encodeChar c ↔ '\\' = c := by
    cases h : stands c with
    | true => rw [encodeChar_of_stands h, List.mem_singleton]
    | false =>
      refine ⟨fun hm ↦ ?_, ?_⟩
      · obtain ⟨b, hb, hm⟩ := List.mem_flatMap.1 hm
        rw [encodeByte, keeps_of_not_stands h hb] at hm
        have h₁ := (hexDigit_spec (nibbles b).1).2.1
        have h₂ := (hexDigit_spec (nibbles b).2).2.1
        simp [h₁.symm, h₂.symm] at hm
      · rintro rfl
        exact absurd h (by decide)
  rw [toList_encode, List.mem_flatMap]
  simp only [hc, exists_eq_right']

theorem unescape_cons {c : Char} (h : c ≠ '%') (rest : List Char) :
    Host.unescape (c :: rest) = String.utf8EncodeChar c ++ Host.unescape rest := by
  rw [Host.unescape]
  rintro _ _ _ rfl
  exact absurd rfl h

theorem unescape_encodeByte (b : UInt8) (rest : List Char) :
    Host.unescape (encodeByte b ++ rest) = b :: Host.unescape rest := by
  rw [encodeByte]
  split
  · next hk =>
    obtain ⟨hs, hu⟩ := stands_ofNat hk
    have hp : Char.ofNat b.toNat ≠ '%' := by
      intro he
      rw [he] at hs
      exact absurd hs (by decide)
    rw [List.singleton_append, unescape_cons hp, hu, List.singleton_append]
  · have hv : UInt8.ofNat (16 * (b.toNat / 16) + b.toNat % 16) = b := by
      rw [Nat.div_add_mod, UInt8.ofNat_toNat]
    simp only [List.cons_append, List.nil_append, Host.unescape,
      (hexDigit_spec (nibbles b).1).2.2, (hexDigit_spec (nibbles b).2).2.2, hv]

/-- What is written as a segment is read back from it. -/
theorem unescape_encode (s : String) :
    Host.unescape (encode s).toList = Text.Utf8.encode s.toList := by
  rw [encode, String.toList_ofList]
  induction Text.Utf8.encode s.toList with
  | nil => rfl
  | cons b bs ih => rw [List.flatMap_cons, unescape_encodeByte, ih]

theorem eq_of_unescape {s t : String}
    (h : Host.unescape (encode s).toList = Text.Utf8.encode t.toList) : s = t := by
  rw [unescape_encode] at h
  have hd := congrArg Text.Utf8.decodeLossy h
  rw [Text.Utf8.decodeLossy_encode, Text.Utf8.decodeLossy_encode] at hd
  exact String.toList_inj.1 hd

end CreditRoll.Url.Segment

namespace CreditRoll.Url.Address

open Segment

theorem toNat_toLower (c : Char) :
    c.toLower.toNat = if 0x41 ≤ c.toNat ∧ c.toNat ≤ 0x5A then c.toNat + 0x20 else c.toNat := by
  have hc : (c.val ≥ 'A'.val ∧ c.val ≤ 'Z'.val) ↔ 0x41 ≤ c.toNat ∧ c.toNat ≤ 0x5A := by
    rw [ge_iff_le, UInt32.le_iff_toNat_le, UInt32.le_iff_toNat_le]
    rfl
  delta Char.toLower
  split
  · next h =>
    have hn := hc.1 h
    have hv : (c.val + ('a'.val - 'A'.val)).toNat = c.val.toNat + 0x20 := by
      rw [UInt32.toNat_add]
      exact Nat.mod_eq_of_lt (Nat.lt_of_le_of_lt (Nat.add_le_add_right hn.2 _) (by decide))
    rw [if_pos hn]
    exact hv
  · next h => rw [if_neg (fun hn ↦ h (hc.2 hn))]

theorem eq_of_toNat {c d : Char} (h : c.toNat = d.toNat) : c = d := by
  rw [← Char.ofNat_toNat c, h, Char.ofNat_toNat]

theorem eq_of_toLower {c d : Char} (h : c.toLower = d) (hd : d.toNat < 0x61) : c = d := by
  have hn := toNat_toLower c
  rw [h] at hn
  split at hn
  · omega
  · exact eq_of_toNat hn.symm

theorem eq_e_of_toLower {c : Char} (h : c.toLower = 'e') : c = 'e' ∨ c = 'E' := by
  have hn := toNat_toLower c
  rw [h] at hn
  have he : 'e'.toNat = 0x65 := rfl
  split at hn
  · exact .inr (eq_of_toNat (d := 'E') (show c.toNat = 0x45 by omega))
  · exact .inl (eq_of_toNat hn.symm)

/-- The ways in which a dot of a step may be written. -/
def IsDot (s : List Char) : Prop :=
  s.map Char.toLower = ['.'] ∨ s.map Char.toLower = ['%', '2', 'e']

theorem isHere_iff {step : List Char} : isHere step = true ↔ IsDot step := by
  simp only [isHere, List.any_cons, List.any_nil, Bool.or_false, Bool.or_eq_true, beq_iff_eq,
    eq_comm (b := step.map Char.toLower)]
  rfl

theorem exists_dots_of_isUp {step : List Char} (h : isUp step = true) :
    ∃ s t, step = s ++ t ∧ IsDot s ∧ IsDot t := by
  have hs {x y : List Char} (hm : x ++ y = step.map Char.toLower)
      (hx : x = ['.'] ∨ x = ['%', '2', 'e']) (hy : y = ['.'] ∨ y = ['%', '2', 'e']) :
      ∃ s t, step = s ++ t ∧ IsDot s ∧ IsDot t := by
    obtain ⟨s, t, rfl, rfl, rfl⟩ := List.map_eq_append_iff.1 hm.symm
    exact ⟨s, t, rfl, hx, hy⟩
  simp only [isUp, List.any_cons, List.any_nil, Bool.or_false, Bool.or_eq_true, beq_iff_eq] at h
  rcases h with h | h | h | h
  · exact hs (x := ['.']) h (.inl rfl) (.inl rfl)
  · exact hs (x := ['.']) h (.inl rfl) (.inr rfl)
  · exact hs (x := ['%', '2', 'e']) h (.inr rfl) (.inl rfl)
  · exact hs (x := ['%', '2', 'e']) h (.inr rfl) (.inr rfl)

theorem IsDot.unescape {s : List Char} (h : IsDot s) (rest : List Char) :
    Host.unescape (s ++ rest) = 0x2E :: Host.unescape rest := by
  rcases h with h | h
  · obtain ⟨c, t, rfl, hc, ht⟩ := List.map_eq_cons_iff.1 h
    obtain rfl := eq_of_toLower hc (by decide)
    obtain rfl := List.map_eq_nil_iff.1 ht
    exact unescape_cons (by decide) rest
  · obtain ⟨c₁, t₁, rfl, h₁, ht₁⟩ := List.map_eq_cons_iff.1 h
    obtain ⟨c₂, t₂, rfl, h₂, ht₂⟩ := List.map_eq_cons_iff.1 ht₁
    obtain ⟨c₃, t₃, rfl, h₃, ht₃⟩ := List.map_eq_cons_iff.1 ht₂
    obtain rfl := eq_of_toLower h₁ (by decide)
    obtain rfl := eq_of_toLower h₂ (by decide)
    obtain rfl := List.map_eq_nil_iff.1 ht₃
    rcases eq_e_of_toLower h₃ with rfl | rfl <;> rfl

/-- A written segment stays where it is only if it is a dot itself. -/
theorem isHere_encode {s : String} : isHere (encode s).toList = true ↔ s = "." := by
  refine ⟨fun h ↦ eq_of_unescape ?_, ?_⟩
  · have hu := (isHere_iff.1 h).unescape []
    rw [List.append_nil] at hu
    exact hu
  · rintro rfl
    rfl

theorem isUp_encode {s : String} : isUp (encode s).toList = true ↔ s = ".." := by
  refine ⟨fun h ↦ eq_of_unescape ?_, ?_⟩
  · obtain ⟨u, t, he, hu, ht⟩ := exists_dots_of_isUp h
    have hd := ht.unescape []
    rw [List.append_nil] at hd
    rw [he, hu.unescape, hd]
    rfl
  · rintro rfl
    rfl

end CreditRoll.Url.Address
