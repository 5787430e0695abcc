import CreditRoll.Proofs.JsonText
import Mathlib.Data.List.Basic
import Mathlib.Data.List.TakeWhile

namespace CreditRoll.Json

namespace Token

variable {s rest : Source}

theorem digits_spec (s : Source) :
    s = (digits s).1.map some ++ (digits s).2 ∧ ∀ c ∈ (digits s).1, c.isDigit = true := by
  fun_induction digits s with
  | case1 c s hc ih =>
    obtain ⟨hs, hd⟩ := ih
    exact ⟨congrArg (some c :: ·) hs, List.forall_mem_cons.2 ⟨hc, hd⟩⟩
  | case2 => exact ⟨rfl, fun _ ↦ by simp⟩
  | case3 => exact ⟨rfl, fun _ ↦ by simp⟩

/-- Digits that are read, if there are any, stand at the front. -/
theorem isDigits_of_digits {ds : List Char} (h : digits s = (ds, rest)) (hne : ds ≠ []) :
    IsDigits ds ∧ s = ds.map some ++ rest := by
  obtain ⟨hs, hd⟩ := digits_spec s
  rw [h] at hs hd
  exact ⟨⟨hne, hd⟩, hs⟩

theorem isWhole_of_whole? {w : List Char} (h : whole? s = some (w, rest)) :
    IsWhole w ∧ s = w.map some ++ rest := by
  unfold whole? at h
  split at h
  · cases h
    exact ⟨.zero, rfl⟩
  · next hz =>
    split at h
    · cases h
    · next d ds rest' hd =>
      cases h
      obtain ⟨hds, hs⟩ := isDigits_of_digits hd (List.cons_ne_nil _ _)
      have hne : d ≠ '0' := by
        rintro rfl
        exact hz _ hs
      exact ⟨.digits hne hds, hs⟩

theorem isFraction_of_fraction? {f : List Char} (h : fraction? s = some (f, rest)) :
    IsFraction f ∧ s = f.map some ++ rest := by
  unfold fraction? at h
  split at h
  · split at h
    · cases h
    · next ds rest' hne hd =>
      cases h
      obtain ⟨hds, hs⟩ := isDigits_of_digits hd hne
      exact ⟨.digits hds, congrArg (some '.' :: ·) hs⟩
  · cases h
    exact ⟨.absent, rfl⟩

theorem sign_spec (s : Source) :
    s = (sign s).1.map some ++ (sign s).2 ∧
      ((sign s).1 = [] ∨ (sign s).1 = ['+'] ∨ (sign s).1 = ['-']) := by
  unfold sign
  split
  · exact ⟨rfl, .inr (.inl rfl)⟩
  · exact ⟨rfl, .inr (.inr rfl)⟩
  · exact ⟨rfl, .inl rfl⟩

theorem isExponent_of_exponent? {x : List Char} (h : exponent? s = some (x, rest)) :
    IsExponent x ∧ s = x.map some ++ rest := by
  unfold exponent? at h
  split at h
  · next c tail =>
    obtain ⟨hs, hg⟩ := sign_spec tail
    split at h
    · next he =>
      dsimp only at h
      split at h
      · cases h
      · next ds rest' hne hd =>
        cases h
        obtain ⟨hds, ht⟩ := isDigits_of_digits hd hne
        refine ⟨.digits he hg hds, ?_⟩
        rw [ht] at hs
        simp only [List.map_append, List.map_cons, List.cons_append, List.append_assoc, ← hs]
    · cases h
      exact ⟨.absent, rfl⟩
  · cases h
    exact ⟨.absent, rfl⟩

theorem unsigned?_eq_some {l : List Char} (h : unsigned? s = some (l, rest)) :
    ∃ w f x, l = w ++ f ++ x ∧ IsWhole w ∧ IsFraction f ∧ IsExponent x ∧
      s = l.map some ++ rest := by
  simp only [unsigned?, Option.bind_eq_bind, Option.bind_eq_some_iff] at h
  obtain ⟨⟨w, s₁⟩, hw, ⟨f, s₂⟩, hf, ⟨x, s₃⟩, hx, h⟩ := h
  cases h
  obtain ⟨hx, hs₂⟩ := isExponent_of_exponent? hx
  obtain ⟨hf, hs₁⟩ := isFraction_of_fraction? hf
  obtain ⟨hw, hs⟩ := isWhole_of_whole? hw
  dsimp only at hs₁ hs₂
  refine ⟨w, f, x, rfl, hw, hf, hx, ?_⟩
  simp only [hs, hs₁, hs₂, List.map_append, List.append_assoc]

theorem isNumber_of_number? {l : List Char} (h : number? s = some (l, rest)) :
    IsNumber l ∧ s = l.map some ++ rest := by
  unfold number? at h
  split at h
  · simp only [Option.bind_eq_bind, Option.bind_eq_some_iff] at h
    obtain ⟨⟨l, s₁⟩, hu, h⟩ := h
    cases h
    obtain ⟨w, f, x, rfl, hw, hf, hx, hs⟩ := unsigned?_eq_some hu
    exact ⟨.minus hw hf hx, congrArg (some '-' :: ·) hs⟩
  · obtain ⟨w, f, x, rfl, hw, hf, hx, hs⟩ := unsigned?_eq_some h
    exact ⟨.plain hw hf hx, hs⟩

theorem mem_hexDigits {c : Char} {n : Nat} (h : hexValue? c = some n) : (c, n) ∈ hexDigits := by
  have hall : ∀ k < 128, ∀ n ∈ hexValue? (Char.ofNat k), (Char.ofNat k, n) ∈ hexDigits := by decide
  have hc : c.toNat < 128 := by
    simp only [hexValue?, Char.isDigit, Bool.and_eq_true, decide_eq_true_eq, Char.le_def,
      UInt32.le_iff_toNat_le] at h
    have hf : 'f'.val.toNat = 102 := rfl
    have hF : 'F'.val.toNat = 70 := rfl
    have h9 : '9'.val.toNat = 57 := rfl
    have hv : c.toNat = c.val.toNat := rfl
    split at h
    · next hd => omega
    · split at h
      · omega
      · split at h
        · omega
        · cases h
  have hm := hall c.toNat hc n
  rw [Char.ofNat_toNat] at hm
  exact hm h

theorem mem_escapes {e : Char} {p : Piece} (h : shortEscape? e = some p) :
    ∃ c, p = .char c ∧ (e, c) ∈ escapes := by
  unfold shortEscape? at h
  split at h <;> cases h <;> exact ⟨_, rfl, by decide⟩

theorem unit?_eq_some {a b c d : Option Char} {p : Piece} (h : unit? a b c d = some p) :
    ∃ a' b' c' d' i j k l, (a', i) ∈ hexDigits ∧ (b', j) ∈ hexDigits ∧ (c', k) ∈ hexDigits ∧
      (d', l) ∈ hexDigits ∧ p = .unit (((i * 16 + j) * 16 + k) * 16 + l) ∧
      [a, b, c, d] = [a', b', c', d'].map some := by
  simp only [unit?, Option.bind_eq_bind, Option.bind_eq_some_iff] at h
  obtain ⟨a', rfl, i, ha, b', rfl, j, hb, c', rfl, k, hc, d', rfl, l, hd, h⟩ := h
  cases h
  exact ⟨a', b', c', d', i, j, k, l, mem_hexDigits ha, mem_hexDigits hb, mem_hexDigits hc,
    mem_hexDigits hd, rfl, rfl⟩

theorem writes_of_pieces? {ps : List Piece} (hs : none ∉ s) (h : pieces? s = some (ps, rest)) :
    ∃ text, Writes text ps ∧ s = text.map some ++ some '"' :: rest := by
  fun_induction pieces? s generalizing ps rest with
  | case1 => cases h
  | case2 rest =>
    cases h
    exact ⟨[], .nil, rfl⟩
  | case3 a b c d tail ih =>
    simp only [Option.bind_eq_bind, Option.bind_eq_some_iff] at h
    obtain ⟨p, hp, ⟨more, tail'⟩, hm, h⟩ := h
    cases h
    obtain ⟨a', b', c', d', i, j, k, l, ha, hb, hc, hd, rfl, he⟩ := unit?_eq_some hp
    cases he
    obtain ⟨text, hw, rfl⟩ := ih (fun hn ↦ hs (by simp [hn])) hm
    exact ⟨_, .unit ha hb hc hd hw, rfl⟩
  | case4 c tail hu ih =>
    simp only [Option.bind_eq_bind, Option.bind_eq_some_iff] at h
    obtain ⟨p, hp, ⟨more, tail'⟩, hm, h⟩ := h
    cases h
    obtain ⟨c', rfl, he⟩ := mem_escapes hp
    obtain ⟨text, hw, rfl⟩ := ih (fun hn ↦ hs (by simp [hn])) hm
    exact ⟨_, .escape he hw, rfl⟩
  | case5 => cases h
  | case6 c tail hq _ _ hc ih =>
    simp only [Option.bind_eq_bind, Option.bind_eq_some_iff] at h
    obtain ⟨⟨more, tail'⟩, hm, h⟩ := h
    cases h
    rw [not_or, Nat.not_lt] at hc
    obtain ⟨text, hw, rfl⟩ := ih (fun hn ↦ hs (by simp [hn])) hm
    exact ⟨_, .char hc.1 hq hc.2 hw, rfl⟩
  | case7 => exact absurd List.mem_cons_self hs

theorem lexeme_of_symbol {t : Token} (h : ∃ p ∈ symbols, p.2 = t ∧ s = p.1.map some ++ rest) :
    ∃ l, Lexeme l t ∧ s = l.map some ++ rest := by
  obtain ⟨⟨l, t⟩, hp, rfl, hs⟩ := h
  exact ⟨l, .symbol hp, hs⟩

theorem lexeme_of_next? {t : Token} (hs : none ∉ s) (h : next? s = some (t, rest)) :
    ∃ l, Lexeme l t ∧ s = l.map some ++ rest := by
  unfold next? at h
  split at h
  case h_10 tail =>
    simp only [Option.bind_eq_bind, Option.bind_eq_some_iff] at h
    obtain ⟨⟨ps, tail'⟩, hp, h⟩ := h
    cases h
    obtain ⟨text, hw, rfl⟩ := writes_of_pieces? (fun hn ↦ hs (List.mem_cons_of_mem _ hn)) hp
    refine ⟨_, .string hw fun t ↦ ?_, ?_⟩
    · rw [← spelled?_iff, Option.map_eq_some_iff]
      constructor
      · intro ht
        exact ⟨t, ht, rfl⟩
      · rintro ⟨t', ht, he⟩
        rwa [← String.ofList_injective he]
    · simp
  case h_11 =>
    simp only [Option.bind_eq_bind, Option.bind_eq_some_iff] at h
    obtain ⟨⟨l, tail⟩, hn, h⟩ := h
    cases h
    obtain ⟨hl, rfl⟩ := isNumber_of_number? hn
    exact ⟨l, .number hl, rfl⟩
  all_goals
    cases h
    apply lexeme_of_symbol
    simp [symbols]

def isNumber : Token → Bool
  | number _ => true
  | _ => false

/-- No number comes directly after another one, or after what stands before the tokens if that is
the end of a value. -/
def Apart : (afterValue : Bool) → List Token → Prop
  | _, [] => True
  | afterValue, t :: ts => (afterValue = true → t.isNumber = false) ∧ Apart t.isNumber ts

theorem Apart.weaken {ts : List Token} (h : Apart true ts) (afterValue : Bool) :
    Apart afterValue ts := by
  cases ts with
  | nil => trivial
  | cons t ts => exact ⟨fun _ ↦ h.1 rfl, h.2⟩

theorem isNumber_of_lexeme {c : Char} {l : List Char} {t : Token} (h : Lexeme (c :: l) t)
    (hc : IsNumeric c) : t.isNumber = true := by
  generalize hl : c :: l = text at h
  cases h with
  | symbol h =>
    have hs : ∀ p ∈ symbols, p.1.head?.all fun c ↦
        !(c.isDigit || c == '.' || c == 'e' || c == 'E') := by decide
    have hn := hs _ h
    rw [← hl, List.head?_cons, Option.all_some] at hn
    exact absurd hc (by simpa [IsNumeric, and_assoc] using hn)
  | number => rfl
  | string =>
    cases hl
    exact absurd hc (by simp [IsNumeric])

def isSpaceChar (c : Char) : Bool := isSpace (some c)

/-- The first token of a text is written in front of what is left of it. -/
theorem all?_cases {text : List Char} {ts : List Token} (h : all? (text.map some) = some ts) :
    text.dropWhile isSpaceChar = [] ∧ ts = [] ∨
      ∃ l t rest ts', text.dropWhile isSpaceChar = l ++ rest ∧ Lexeme l t ∧ ts = t :: ts' ∧
        all? (rest.map some) = some ts' := by
  have hd : (text.map some).dropWhile isSpace = (text.dropWhile isSpaceChar).map some :=
    List.dropWhile_map
  rw [all?] at h
  split at h
  · next hn =>
    cases h
    rw [hd, List.map_eq_nil_iff] at hn
    exact .inl ⟨hn, rfl⟩
  · next hn =>
    rw [hd] at hn
    split at h
    · cases h
    · next t rest ht =>
      rw [← hn] at ht
      obtain ⟨ts', hr, rfl⟩ := Option.map_eq_some_iff.1 h
      obtain ⟨l, hl, hs⟩ := lexeme_of_next? (by simp) ht
      obtain ⟨l', rest', hsplit, hl', rfl⟩ := List.map_eq_append_iff.1 hs
      obtain rfl : l' = l := List.map_injective_iff.2 (fun _ _ ↦ Option.some.inj) hl'
      exact .inr ⟨l', t, rest', ts', hsplit, hl, rfl, hr⟩

/-- A text whose tokens may come after a number does not go on with that number. -/
theorem not_begins_of_apart {text : List Char} {ts : List Token}
    (h : all? (text.map some) = some ts) (ha : Apart true ts) : ¬ Begins IsNumeric text := by
  rintro ⟨c, hc, hn⟩
  have hs : isSpaceChar c = false := Bool.eq_false_iff.2 fun hs ↦ not_isNumeric_of_isSpace hs hn
  have hd : text.dropWhile isSpaceChar = text := by
    cases text with
    | nil => rfl
    | cons c' text =>
      cases hc
      rw [List.dropWhile_cons, if_neg (by simp [hs])]
  rcases all?_cases h with ⟨he, -⟩ | ⟨l, t, rest, ts, he, hl, rfl, -⟩
  · rw [← hd, he] at hc
    cases hc
  · obtain ⟨c', l, rfl, -⟩ := exists_cons_of_lexeme hl
    rw [← hd, he] at hc
    cases hc
    have hf : t.isNumber = false := ha.1 rfl
    rw [isNumber_of_lexeme hl hn] at hf
    cases hf

theorem layout_of_all? {text : List Char} {ts : List Token} (h : all? (text.map some) = some ts)
    {afterValue : Bool} (ha : Apart afterValue ts) : Layout text ts := by
  induction ts generalizing text afterValue with
  | nil =>
    rcases all?_cases h with ⟨hd, -⟩ | ⟨_, _, _, _, -, -, hn, -⟩
    · exact .nil (List.dropWhile_eq_nil_iff.1 hd)
    · cases hn
  | cons t ts ih =>
    rcases all?_cases h with ⟨-, hn⟩ | ⟨l, t, rest, ts, hd, hl, hts, hr⟩
    · cases hn
    · cases hts
      have hw : ∀ c ∈ text.takeWhile isSpaceChar, isSpaceChar c = true :=
        fun c hc ↦ List.mem_takeWhile_imp hc
      have hsplit : text = text.takeWhile isSpaceChar ++ l ++ rest := by
        rw [List.append_assoc, ← hd, List.takeWhile_append_dropWhile]
      rw [hsplit]
      refine .cons hw hl ?_ (ih hr ha.2)
      rintro n rfl
      exact not_begins_of_apart hr ha.2

end Token

def Frame.tokens : Frame → List Token
  | .items before => .openArray :: before.reverse.flatMap (·.tokens ++ [.comma])
  | .members before name =>
    .openObject :: (before.reverse.flatMap fun m ↦
      .string m.1 :: .colon :: (m.2.tokens ++ [.comma])) ++ [.string name, .colon]

def readTokens (stack : List Frame) (done : Option Json) : List Token :=
  stack.reverse.flatMap Frame.tokens ++ done.elim [] Json.tokens

theorem tokens_items (vs : List Json) (v : Json) :
    (array (vs ++ [v])).tokens =
      .openArray :: (vs.flatMap (·.tokens ++ [.comma]) ++ (v.tokens ++ [.closeArray])) := by
  cases vs with
  | nil => simp [tokens, moreItems]
  | cons x vs =>
    rw [List.cons_append, tokens]
    induction vs generalizing x with
    | nil => simp [moreItems]
    | cons y vs ih => simpa [moreItems] using ih y

theorem tokens_members (ms : List (Option String × Json)) (name : Option String) (v : Json) :
    (object (ms ++ [(name, v)])).tokens =
      .openObject :: ((ms.flatMap fun m ↦ .string m.1 :: .colon :: (m.2.tokens ++ [.comma])) ++
        .string name :: .colon :: (v.tokens ++ [.closeObject])) := by
  cases ms with
  | nil => simp [tokens, moreMembers]
  | cons m ms =>
    rw [List.cons_append, tokens]
    induction ms generalizing m with
    | nil => simp [moreMembers]
    | cons m' ms ih => simpa [moreMembers] using ih m'

theorem tokens_of_resume? {stack : List Frame} {done : Option Json} {ts : List Token} {v : Json}
    (h : resume? stack done ts = some v) : v.tokens = readTokens stack done ++ ts := by
  fun_induction resume? stack done ts with
  | case1 stack ts ih | case2 stack b ts ih | case3 stack l ts ih | case4 stack s ts ih
  | case5 stack ts ih | case7 stack ts ih =>
    rw [ih h]
    simp [readTokens, tokens]
  | case6 stack ts _ ih | case8 stack name ts ih | case10 before stack v ts ih
  | case12 before name stack v name' ts ih =>
    rw [ih h]
    simp [readTokens, Frame.tokens]
  | case9 v =>
    cases h
    simp [readTokens]
  | case11 before stack v ts ih =>
    rw [ih h]
    simp [readTokens, Frame.tokens, tokens_items]
  | case13 before name stack v ts ih =>
    rw [ih h]
    simp [readTokens, Frame.tokens, tokens_members]
  | case14 => cases h

/-- A value is never followed by another one directly. -/
theorem apart_of_resume? {stack : List Frame} {done : Option Json} {ts : List Token} {v : Json}
    (h : resume? stack done ts = some v) : Token.Apart done.isSome ts := by
  fun_induction resume? stack done ts with
  | case3 stack l ts ih => exact ⟨fun hd ↦ (by cases hd), ih h⟩
  | case1 stack ts ih | case2 stack b ts ih | case4 stack s ts ih =>
    exact ⟨fun _ ↦ rfl, (ih h).weaken false⟩
  | case5 stack ts ih | case7 stack ts ih =>
    exact ⟨fun _ ↦ rfl, fun _ ↦ rfl, (ih h).weaken false⟩
  | case6 stack ts _ ih | case10 before stack v ts ih => exact ⟨fun _ ↦ rfl, ih h⟩
  | case8 stack name ts ih => exact ⟨fun _ ↦ rfl, fun _ ↦ rfl, fun _ ↦ rfl, ih h⟩
  | case9 v => trivial
  | case11 before stack v ts ih | case13 before name stack v ts ih =>
    exact ⟨fun _ ↦ rfl, (ih h).weaken false⟩
  | case12 before name stack v name' ts ih =>
    exact ⟨fun _ ↦ rfl, fun _ ↦ rfl, fun _ ↦ rfl, ih h⟩
  | case14 => cases h

/-- The texts of a value are the texts that are read as it. -/
theorem ofChars?_eq_some_iff {text : List Char} {v : Json} :
    ofChars? text = some v ↔ IsText text v := by
  constructor
  · intro h
    obtain ⟨ts, ht, hr⟩ := Option.bind_eq_some_iff.1 h
    have hv : v.tokens = ts := tokens_of_resume? hr
    rw [IsText, hv]
    exact Token.layout_of_all? ht (apart_of_resume? hr)
  · exact ofChars?_of_isText

end CreditRoll.Json
