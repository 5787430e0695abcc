import CreditRoll.Json.Token

namespace CreditRoll.Json.Token

def escapes : List (Char × Char) :=
  [('"', '"'), ('\\', '\\'), ('/', '/'), ('b', '\x08'), ('f', '\x0C'), ('n', '\n'), ('r', '\r'),
    ('t', '\t')]

def hexDigits : List (Char × Nat) :=
  "0123456789abcdef".toList.zipIdx ++ "ABCDEF".toList.zipIdx 10

inductive Writes : List Char → List Piece → Prop
  | nil : Writes [] []
  | char {c : Char} {text : List Char} {ps : List Piece} (hc : 0x20 ≤ c.toNat) (hq : c ≠ '"')
      (hb : c ≠ '\\') (h : Writes text ps) : Writes (c :: text) (.char c :: ps)
  | escape {e c : Char} {text : List Char} {ps : List Piece} (he : (e, c) ∈ escapes)
      (h : Writes text ps) : Writes ('\\' :: e :: text) (.char c :: ps)
  | unit {a b c d : Char} {i j k l : Nat} {text : List Char} {ps : List Piece}
      (ha : (a, i) ∈ hexDigits) (hb : (b, j) ∈ hexDigits) (hc : (c, k) ∈ hexDigits)
      (hd : (d, l) ∈ hexDigits) (h : Writes text ps) :
      Writes ('\\' :: 'u' :: a :: b :: c :: d :: text)
        (.unit (((i * 16 + j) * 16 + k) * 16 + l) :: ps)

/-- The text that the steps of a string spell, where escaped units beyond the range of one come in
pairs. -/
inductive Spells : List Piece → List Char → Prop
  | nil : Spells [] []
  | char {c : Char} {ps : List Piece} {s : List Char} (h : Spells ps s) :
      Spells (.char c :: ps) (c :: s)
  | unit {n : Nat} {ps : List Piece} {s : List Char} (hn : n < 0xD800 ∨ 0xE000 ≤ n)
      (h : Spells ps s) : Spells (.unit n :: ps) (Char.ofNat n :: s)
  | pair {n m : Nat} {ps : List Piece} {s : List Char} (hn : n < 0x400) (hm : m < 0x400)
      (h : Spells ps s) :
      Spells (.unit (0xD800 + n) :: .unit (0xDC00 + m) :: ps)
        (Char.ofNat (0x10000 + n * 0x400 + m) :: s)

theorem hexValue?_of_mem {c : Char} {n : Nat} (h : (c, n) ∈ hexDigits) : hexValue? c = some n := by
  have ha : ∀ p ∈ hexDigits, hexValue? p.1 = some p.2 := by decide
  exact ha _ h

theorem shortEscape?_of_mem {e c : Char} (h : (e, c) ∈ escapes) :
    shortEscape? e = some (.char c) ∧ e ≠ 'u' := by
  have ha : ∀ p ∈ escapes, shortEscape? p.1 = some (.char p.2) ∧ p.1 ≠ 'u' := by decide
  exact ha _ h

theorem pieces?_of_writes {text : List Char} {ps : List Piece} (h : Writes text ps)
    (rest : Source) : pieces? (text.map some ++ some '"' :: rest) = some (ps, rest) := by
  induction h with
  | nil => simp [pieces?]
  | char hc hq hb _ ih =>
    have hn : ¬ (_ < 0x20 ∨ _ = '\\') := fun h ↦ h.elim (Nat.not_lt.2 hc) hb
    rw [List.map_cons, List.cons_append, pieces?, if_neg hn, ih]
    · rfl
    · exact hq
    · intro _ _ _ _ _ _ he
      exact hb he
    · intro _ _ _ he
      exact hb he
  | escape he _ ih =>
    obtain ⟨hs, hu⟩ := shortEscape?_of_mem he
    simp [pieces?, hu, hs, ih]
  | unit ha hb hc hd _ ih =>
    simp [pieces?, unit?, hexValue?_of_mem ha, hexValue?_of_mem hb, hexValue?_of_mem hc,
      hexValue?_of_mem hd, ih]

/-- The unit after it cannot make a pair with a unit that is no surrogate. -/
theorem spelled?_unit {n : Nat} (hn : n < 0xD800 ∨ 0xE000 ≤ n) (ps : List Piece) :
    spelled? (.unit n :: ps) = (Char.ofNat n :: ·) <$> spelled? ps := by
  have hs : ¬ (0xD800 ≤ n ∧ n < 0xE000) := by omega
  have hp (m : Nat) : ¬ (0xD800 ≤ n ∧ n < 0xDC00 ∧ 0xDC00 ≤ m ∧ m < 0xE000) := by omega
  rcases ps with _ | ⟨_ | m | _, ps⟩
  · simp only [spelled?, if_neg hs]
  · simp only [spelled?, if_neg hs]
  · rw [spelled?, if_neg (hp m), if_neg hs]
  · simp only [spelled?, if_neg hs]

/-- A string that no text spells is one with a lone surrogate or with bytes that encode nothing. -/
theorem spelled?_iff (ps : List Piece) (s : List Char) :
    spelled? ps = some s ↔ Spells ps s := by
  constructor
  · intro h
    fun_induction spelled? ps generalizing s with
    | case1 =>
      cases h
      exact .nil
    | case2 c ps ih =>
      obtain ⟨s, hs, rfl⟩ := Option.map_eq_some_iff.1 h
      exact .char (ih s hs)
    | case3 => cases h
    | case4 high low ps hr ih =>
      obtain ⟨s, hs, rfl⟩ := Option.map_eq_some_iff.1 h
      have hp := Spells.pair (n := high - 0xD800) (m := low - 0xDC00) (by omega) (by omega)
        (ih s hs)
      rwa [Nat.add_sub_cancel' (by omega), Nat.add_sub_cancel' (by omega)] at hp
    | case5 => cases h
    | case6 high low ps hp hs ih =>
      obtain ⟨s, hs', rfl⟩ := Option.map_eq_some_iff.1 h
      exact .unit (by omega) (ih s hs')
    | case7 => cases h
    | case8 n ps _ hs ih =>
      obtain ⟨s, hs', rfl⟩ := Option.map_eq_some_iff.1 h
      exact .unit (by omega) (ih s hs')
  · intro h
    induction h with
    | nil => rfl
    | char _ ih => simp only [spelled?, ih, Option.map_eq_map, Option.map_some]
    | unit hn _ ih => simp only [spelled?_unit hn, ih, Option.map_eq_map, Option.map_some]
    | @pair n m ps s hn hm _ ih =>
      have hr : 0xD800 ≤ 0xD800 + n ∧ 0xD800 + n < 0xDC00 ∧ 0xDC00 ≤ 0xDC00 + m ∧
          0xDC00 + m < 0xE000 := by omega
      simp only [spelled?, if_pos hr, ih, Nat.add_sub_cancel_left, Option.map_eq_map,
        Option.map_some]

def IsDigits (s : List Char) : Prop := s ≠ [] ∧ ∀ c ∈ s, c.isDigit = true

inductive IsWhole : List Char → Prop
  | zero : IsWhole ['0']
  | digits {c : Char} {s : List Char} (hz : c ≠ '0') (h : IsDigits (c :: s)) : IsWhole (c :: s)

inductive IsFraction : List Char → Prop
  | absent : IsFraction []
  | digits {s : List Char} (h : IsDigits s) : IsFraction ('.' :: s)

inductive IsExponent : List Char → Prop
  | absent : IsExponent []
  | digits {e : Char} {sign s : List Char} (he : e = 'e' ∨ e = 'E')
      (hs : sign = [] ∨ sign = ['+'] ∨ sign = ['-']) (h : IsDigits s) :
      IsExponent (e :: sign ++ s)

inductive IsNumber : List Char → Prop
  | plain {w f x : List Char} (hw : IsWhole w) (hf : IsFraction f) (hx : IsExponent x) :
      IsNumber (w ++ f ++ x)
  | minus {w f x : List Char} (hw : IsWhole w) (hf : IsFraction f) (hx : IsExponent x) :
      IsNumber ('-' :: (w ++ f ++ x))

def Begins (p : Char → Prop) (text : List Char) : Prop := ∃ c ∈ text.head?, p c

def IsNumeric (c : Char) : Prop := c.isDigit = true ∨ c = '.' ∨ c = 'e' ∨ c = 'E'

theorem digits_append {s rest : List Char} (hs : ∀ c ∈ s, c.isDigit = true)
    (hr : ¬ Begins (·.isDigit = true) rest) :
    digits ((s ++ rest).map some) = (s, rest.map some) := by
  induction s with
  | nil =>
    cases rest with
    | nil => rfl
    | cons c rest =>
      have hc : ¬ c.isDigit = true := fun h ↦ hr ⟨c, rfl, h⟩
      simp only [List.nil_append, List.map_cons, digits, if_neg hc]
  | cons c s ih =>
    obtain ⟨hc, hs⟩ := List.forall_mem_cons.1 hs
    simp only [List.cons_append, List.map_cons, digits, if_pos hc, ih hs]

theorem whole?_append {w rest : List Char} (hw : IsWhole w)
    (hr : ¬ Begins (·.isDigit = true) rest) :
    whole? ((w ++ rest).map some) = some (w, rest.map some) := by
  cases hw with
  | zero => rfl
  | @digits c s hz h =>
    have hd := digits_append h.2 hr
    rw [List.cons_append, List.map_cons] at hd ⊢
    rw [whole?, hd]
    rintro _ he
    cases he
    exact hz rfl

theorem fraction?_append {f rest : List Char} (hf : IsFraction f)
    (hr : ¬ Begins (fun c ↦ c.isDigit = true ∨ c = '.') rest) :
    fraction? ((f ++ rest).map some) = some (f, rest.map some) := by
  cases hf with
  | absent =>
    rw [List.nil_append, fraction?]
    rintro s he
    cases rest with
    | nil => cases he
    | cons c rest =>
      cases he
      exact hr ⟨_, rfl, .inr rfl⟩
  | @digits s h =>
    have hd : digits ((s ++ rest).map some) = (s, rest.map some) :=
      digits_append h.2 fun ⟨c, hc, hd⟩ ↦ hr ⟨c, hc, .inl hd⟩
    obtain ⟨c, s, rfl⟩ := List.exists_cons_of_ne_nil h.1
    rw [List.cons_append, List.map_cons, fraction?, hd]

theorem sign_append {sign : List Char} {c : Char}
    (hs : sign = [] ∨ sign = ['+'] ∨ sign = ['-']) (hc : c.isDigit = true) (rest : List Char) :
    Token.sign ((sign ++ (c :: rest)).map some) = (sign, (c :: rest).map some) := by
  rcases hs with rfl | rfl | rfl
  · rw [List.nil_append, List.map_cons, Token.sign]
    all_goals
      rintro s he
      cases he
      exact absurd hc (by decide)
  · rfl
  · rfl

theorem exponent?_append {x rest : List Char} (hx : IsExponent x) (hr : ¬ Begins IsNumeric rest) :
    exponent? ((x ++ rest).map some) = some (x, rest.map some) := by
  cases hx with
  | absent =>
    cases rest with
    | nil => rfl
    | cons c rest =>
      have hc : ¬ (c = 'e' ∨ c = 'E') := fun h ↦ hr ⟨c, rfl, .inr (.inr h)⟩
      simp only [List.nil_append, List.map_cons, exponent?, if_neg hc]
  | @digits e sign s he hs h =>
    have hd : digits ((s ++ rest).map some) = (s, rest.map some) :=
      digits_append h.2 fun ⟨c, hc, hd⟩ ↦ hr ⟨c, hc, .inl hd⟩
    obtain ⟨c, s, rfl⟩ := List.exists_cons_of_ne_nil h.1
    have hg := sign_append hs (h.2 c List.mem_cons_self) (s ++ rest)
    rw [List.append_assoc, List.cons_append, List.map_cons, exponent?, if_pos he]
    simp only [List.cons_append] at hd hg ⊢
    simp only [hg, hd]

theorem unsigned?_append {w f x rest : List Char} (hw : IsWhole w) (hf : IsFraction f)
    (hx : IsExponent x) (hr : ¬ Begins IsNumeric rest) :
    unsigned? ((w ++ f ++ x ++ rest).map some) = some (w ++ f ++ x, rest.map some) := by
  have hxr : ¬ Begins (fun c ↦ c.isDigit = true ∨ c = '.') (x ++ rest) := by
    rintro ⟨c, hc, hd⟩
    cases hx with
    | absent => exact hr ⟨c, hc, hd.elim .inl fun h ↦ .inr (.inl h)⟩
    | digits he =>
      cases hc
      rcases he with rfl | rfl <;> exact absurd hd (by decide)
  have hfr : ¬ Begins (·.isDigit = true) (f ++ (x ++ rest)) := by
    rintro ⟨c, hc, hd⟩
    cases hf with
    | absent => exact hxr ⟨c, hc, .inl hd⟩
    | digits =>
      cases hc
      exact absurd hd (by decide)
  simp only [List.append_assoc, unsigned?, Option.bind_eq_bind, whole?_append hw hfr,
    Option.bind_some, fraction?_append hf hxr, exponent?_append hx hr, Option.pure_def]

theorem number?_append {l rest : List Char} (hl : IsNumber l) (hr : ¬ Begins IsNumeric rest) :
    number? ((l ++ rest).map some) = some (l, rest.map some) := by
  cases hl with
  | minus hw hf hx =>
    simp only [List.cons_append, List.map_cons, number?, unsigned?_append hw hf hx hr]
    rfl
  | plain hw hf hx =>
    rw [number?, unsigned?_append hw hf hx hr]
    rintro s he
    cases hw with
    | zero => cases he
    | digits _ h =>
      cases he
      exact absurd (h.2 '-' List.mem_cons_self) (by decide)

def symbols : List (List Char × Token) :=
  [(['['], .openArray), ([']'], .closeArray), (['\x7b'], .openObject), (['\x7d'], .closeObject),
    ([','], .comma), ([':'], .colon), ("null".toList, .null), ("true".toList, .bool true),
    ("false".toList, .bool false)]

inductive Lexeme : List Char → Token → Prop
  | symbol {l : List Char} {t : Token} (h : (l, t) ∈ symbols) : Lexeme l t
  | number {l : List Char} (h : IsNumber l) : Lexeme l (.number (String.ofList l))
  | string {text : List Char} {ps : List Piece} {s : Option String} (hw : Writes text ps)
      (hs : ∀ t, Spells ps t ↔ s = some (String.ofList t)) :
      Lexeme ('"' :: (text ++ ['"'])) (.string s)

theorem spelled?_of_spells {ps : List Piece} {s : Option String}
    (hs : ∀ t, Spells ps t ↔ s = some (String.ofList t)) :
    (spelled? ps).map String.ofList = s := by
  cases hp : spelled? ps with
  | some t => exact ((hs t).1 ((spelled?_iff ps t).1 hp)).symm
  | none =>
    cases s with
    | none => rfl
    | some s =>
      have ht : Spells ps s.toList := (hs _).2 (by rw [String.ofList_toList])
      rw [(spelled?_iff ps _).2 ht] at hp
      cases hp

def IsInitial (c : Char) : Prop := c.isDigit = true ∨ c = '-'

theorem exists_cons_of_isNumber {l : List Char} (h : IsNumber l) :
    ∃ c s, l = c :: s ∧ IsInitial c := by
  cases h with
  | minus => exact ⟨_, _, rfl, .inr rfl⟩
  | plain hw =>
    cases hw with
    | zero => exact ⟨_, _, rfl, .inl rfl⟩
    | digits _ h => exact ⟨_, _, rfl, .inl (h.2 _ List.mem_cons_self)⟩

theorem next?_of_isInitial {c : Char} (hc : IsInitial c) (s : Source) :
    next? (some c :: s) =
      (number? (some c :: s)).map fun p ↦ (.number (String.ofList p.1), p.2) := by
  unfold next?
  split
  case h_11 => cases number? (some c :: s) <;> rfl
  all_goals
    next he =>
      cases he
      exact absurd hc (by simp [IsInitial])

theorem next?_append {l rest : List Char} {t : Token} (hl : Lexeme l t)
    (hn : ∀ n, t = .number n → ¬ Begins IsNumeric rest) :
    next? ((l ++ rest).map some) = some (t, rest.map some) := by
  cases hl with
  | symbol h =>
    have hs : ∀ p ∈ symbols, next? ((p.1 ++ rest).map some) = some (p.2, rest.map some) := by
      simp [symbols, next?]
    exact hs _ h
  | number h =>
    have hr := number?_append h (hn _ rfl)
    obtain ⟨c, s, rfl, hc⟩ := exists_cons_of_isNumber h
    rw [List.cons_append, List.map_cons] at hr ⊢
    rw [next?_of_isInitial hc, hr]
    rfl
  | @string text ps s hw hs =>
    have hp := pieces?_of_writes hw (rest.map some)
    have ht : ('"' :: (text ++ ['"']) ++ rest).map some =
        some '"' :: (text.map some ++ some '"' :: rest.map some) := by simp
    rw [ht, next?, hp]
    simp only [Option.bind_eq_bind, Option.bind_some, spelled?_of_spells hs, Option.pure_def]

end CreditRoll.Json.Token
