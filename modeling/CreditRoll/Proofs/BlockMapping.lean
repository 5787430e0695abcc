import CreditRoll.Proofs.Blanks
import CreditRoll.Yaml.Node
import Mathlib.Data.Option.Basic

namespace CreditRoll.Yaml

namespace Mark

def along (m : Mark) (n : Nat) : Mark :=
  ⟨m.index + n, m.line, m.column + n⟩

theorem next_along (m : Mark) (n : Nat) : m.next.along n = m.along (n + 1) := by
  simp [along, next, Nat.add_assoc, Nat.add_comm 1]

end Mark

namespace Cell

def onLine (m : Mark) : List Char → List Cell
  | [] => []
  | c :: s => ⟨c, m⟩ :: onLine m.next s

theorem onLine_append (m : Mark) (s t : List Char) :
    onLine m (s ++ t) = onLine m s ++ onLine (m.along s.length) t := by
  induction s generalizing m with
  | nil => rfl
  | cons c s ih => simp only [List.cons_append, onLine, ih, List.length_cons, Mark.next_along]

theorem length_onLine (m : Mark) (s : List Char) : (onLine m s).length = s.length := by
  induction s generalizing m with
  | nil => rfl
  | cons c s ih => simp only [onLine, List.length_cons, ih]

theorem ofChars_append {s : List Char} (hs : ∀ c ∈ s, isBreak c = false) (m : Mark)
    (t : List Char) :
    ofChars m (s ++ t) = (onLine m s ++ (ofChars (m.along s.length) t).1,
      (ofChars (m.along s.length) t).2) := by
  induction s generalizing m with
  | nil => rfl
  | cons c s ih =>
    obtain ⟨hc, hs⟩ := List.forall_mem_cons.1 hs
    have hr : c ≠ '\r' := by
      rintro rfl
      cases hc
    rw [List.cons_append, ofChars, if_neg (by simp [hc]), ih hs, Mark.next_along]
    · rfl
    · rintro - rfl
      exact absurd rfl hr

theorem ofChars_newline (m : Mark) (t : List Char) :
    ofChars m ('\n' :: t) =
      (⟨'\n', m⟩ :: (ofChars (m.nextLine 1) t).1, (ofChars (m.nextLine 1) t).2) := by
  rw [ofChars]
  · rfl
  · rintro - h
    cases h

theorem isRule_eq_false {a c : Char} {m : Mark} (h : c ≠ a ∨ m.column ≠ 0) (rest : List Cell) :
    isRule a (⟨c, m⟩ :: rest) = false := by
  simp only [isRule]
  split
  · next hs =>
    cases hs
    obtain h | h := h <;> simp [h]
  · rfl

theorem isDocumentRule_eq_false {c : Char} {m : Mark} (h : c ≠ '-' ∧ c ≠ '.' ∨ m.column ≠ 0)
    (rest : List Cell) : isDocumentRule (⟨c, m⟩ :: rest) = false := by
  rw [isDocumentRule, isRule_eq_false (h.imp_left And.left), isRule_eq_false (h.imp_left And.right)]
  rfl

def isLetter (c : Char) : Bool :=
  c.isAlpha || c == '_' ||
    (decide (0xA0 < c.toNat) && isAllowed c && !isBreak c && c != '\uFEFF')

def isPrintable (c : Char) : Bool :=
  decide (0x20 ≤ c.toNat) && decide (c.toNat ≤ 0x7E)

theorem ne_of_isLetter {c : Char} (h : isLetter c = true) {d : Char} (hd : isLetter d = false) :
    c ≠ d := by
  rintro rfl
  cases h.symm.trans hd

theorem isBreak_of_class {p : Char → Bool} {c : Char} (h : p c = true)
    (hp : ['\n', '\r', '\x85', '\u2028', '\u2029'].all (!p ·) = true) : isBreak c = false := by
  rw [Bool.eq_false_iff]
  intro hb
  have hm : c ∈ ['\n', '\r', '\x85', '\u2028', '\u2029'] := by
    simpa [isBreak, or_assoc] using hb
  simpa [h] using List.all_eq_true.1 hp c hm

theorem isBreak_of_isLetter {c : Char} (h : isLetter c = true) : isBreak c = false :=
  isBreak_of_class h rfl

theorem isBreak_of_isPrintable {c : Char} (h : isPrintable c = true) : isBreak c = false :=
  isBreak_of_class h rfl

theorem isGap_of_isLetter {c : Char} (h : isLetter c = true) : isGap c = false := by
  have hs : c ≠ ' ' := ne_of_isLetter h rfl
  have ht : c ≠ '\t' := ne_of_isLetter h rfl
  simp [isGap, isSpace, isBreak_of_isLetter h, hs, ht]

theorem isAllowed_of_isPrintable {c : Char} (h : isPrintable c = true) : isAllowed c = true := by
  simp only [isPrintable, Bool.and_eq_true] at h
  simp [isAllowed, h.1, h.2]

theorem isPrintable_of_isAlpha {c : Char} (h : c.isAlpha = true) : isPrintable c = true := by
  have hn := Text.toNat_of_isAlphanum (c := c) (by simp [Char.isAlphanum, h])
  simp only [isPrintable, Bool.and_eq_true, decide_eq_true_eq]
  omega

theorem isAllowed_of_isLetter {c : Char} (h : isLetter c = true) : isAllowed c = true := by
  simp only [isLetter, Bool.or_eq_true, Bool.and_eq_true] at h
  obtain (ha | hu) | ⟨⟨⟨-, ha⟩, -⟩, -⟩ := h
  · exact isAllowed_of_isPrintable (isPrintable_of_isAlpha ha)
  · rw [beq_iff_eq.1 hu]
    rfl
  · exact ha

end Cell

namespace Scalar

open Cell

def quote (s : List Char) : List Char :=
  s.flatMap fun c ↦ if c = '\'' then ['\'', '\''] else [c]

theorem plain?_word {k : List Char} (hk : k.all isLetter = true) (m : Mark) (indent : Nat)
    (colon space : Mark) (rest : List Cell) :
    plain? false indent .empty (onLine m k ++ ⟨':', colon⟩ :: ⟨' ', space⟩ :: rest) =
      some ⟨k, ⟨':', colon⟩ :: ⟨' ', space⟩ :: rest, false⟩ := by
  induction k generalizing m with
  | nil =>
    have hr : isDocumentRule (⟨':', colon⟩ :: ⟨' ', space⟩ :: rest) = false :=
      isDocumentRule_eq_false (.inl (by decide)) _
    simp [onLine, plain?, hr, isGap, isSpace, isBreak, Gap.isFolded, Gap.empty, startsGap]
  | cons c k ih =>
    rw [List.all_cons, Bool.and_eq_true] at hk
    obtain ⟨hc, hk⟩ := hk
    have hr (rest : List Cell) : isDocumentRule (⟨c, m⟩ :: rest) = false :=
      isDocumentRule_eq_false (.inl ⟨ne_of_isLetter hc rfl, ne_of_isLetter hc rfl⟩) rest
    have hcolon : c ≠ ':' := ne_of_isLetter hc rfl
    simp only [onLine, List.cons_append, plain?, isGap_of_isLetter hc, ih hk, hr]
    simp [hcolon, Gap.text, Gap.empty]

variable {c : Char} {m : Mark} {rest : List Cell}

theorem single?_gap (h : isGap c = true) (gap : Gap) :
    single? gap (⟨c, m⟩ :: rest) = single? (gap.add c) rest := by
  rw [single?.eq_def]
  simp only [h, if_true]

theorem single?_text (h : isGap c = false) (hq : c ≠ '\'') (hm : m.column ≠ 0) (gap : Gap) :
    single? gap (⟨c, m⟩ :: rest) =
      (single? .empty rest).map fun r ↦ (gap.text ++ c :: r.1, r.2) := by
  rw [single?.eq_def]
  simp [h, hq, isDocumentRule_eq_false (.inr hm)]

theorem single?_doubled (hm : m.column ≠ 0) (gap : Gap) {n : Mark} :
    single? gap (⟨'\'', m⟩ :: ⟨'\'', n⟩ :: rest) =
      (single? .empty rest).map fun r ↦ (gap.text ++ '\'' :: r.1, r.2) := by
  have hg : isGap '\'' = false := rfl
  rw [single?.eq_def]
  simp [hg, isDocumentRule_eq_false (.inr hm)]

theorem single?_close (hm : m.column ≠ 0) (gap : Gap) (hr : ∀ c ∈ rest.head?, c.char ≠ '\'') :
    single? gap (⟨'\'', m⟩ :: rest) = some (gap.text, rest) := by
  have hg : isGap '\'' = false := rfl
  rw [single?.eq_def]
  cases rest with
  | nil => simp [hg, isDocumentRule_eq_false (.inr hm)]
  | cons d rest => simp [hg, isDocumentRule_eq_false (.inr hm), hr d rfl]

theorem single?_quote {v : List Char} (hv : v.all isPrintable = true) (hm : m.column ≠ 0)
    (gap : List Char) (hr : ∀ c ∈ rest.head?, c.char ≠ '\'') :
    single? (.spaces gap) (onLine m (quote v ++ ['\'']) ++ rest) = some (gap ++ v, rest) := by
  induction v generalizing m gap with
  | nil =>
    rw [List.append_nil]
    exact single?_close hm (.spaces gap) hr
  | cons c v ih =>
    rw [List.all_cons, Bool.and_eq_true] at hv
    obtain ⟨hc, hv⟩ := hv
    have hn : m.next.column ≠ 0 := Nat.succ_ne_zero _
    by_cases hq : c = '\''
    · have hs : quote (c :: v) = '\'' :: '\'' :: quote v := by simp [quote, hq]
      have hi := ih (m := m.next.next) hv (Nat.succ_ne_zero _) []
      rw [hs, List.cons_append, List.cons_append, onLine, onLine, List.cons_append,
        List.cons_append, single?_doubled hm, Gap.empty, hi, hq]
      rfl
    · have hs : quote (c :: v) = c :: quote v := by simp [quote, hq]
      have hb := isBreak_of_isPrintable hc
      rw [hs, List.cons_append, onLine, List.cons_append]
      by_cases hspace : c = ' '
      · have hg : isGap c = true := by simp [isGap, isSpace, hspace]
        have ha : (Gap.spaces gap).add c = .spaces (gap ++ [c]) := by simp [Gap.add, hb]
        rw [single?_gap hg, ha, ih hv hn, List.append_assoc]
        rfl
      · have ht : c ≠ '\t' := by
          rintro rfl
          cases hc
        have hg : isGap c = false := by simp [isGap, isSpace, hspace, ht, hb]
        rw [single?_text hg hq hm, Gap.empty, ih hv hn]
        rfl

end Scalar

open Cell

/-- A pair of a block mapping on a line of its own: a plain word and a text in single quotes. -/
structure Line where
  key : String
  value : String
  key_ne : key ≠ ""
  isWord_key : key.toList.all isLetter = true
  isPrintable_value : value.toList.all isPrintable = true

namespace Line

def text (l : Line) : List Char :=
  l.key.toList ++ ':' :: ' ' :: '\'' :: (Scalar.quote l.value.toList ++ ['\''])

/-- The lines of a document, one under the other. There may be a line break after the last. -/
def document (ended : Bool) (lines : List Line) : List Char :=
  ['\n'].intercalate (lines.map text) ++ if ended then ['\n'] else []

def placed (m : Mark) : List Line → List (Mark × Line)
  | [] => []
  | l :: lines => (m, l) :: placed ((m.along l.text.length).nextLine 1) lines

def tokens (m : Mark) (l : Line) : List Token :=
  [⟨.key, m⟩, ⟨.scalar true l.key, m⟩, ⟨.value, m.along l.key.length⟩,
    ⟨.scalar false l.value, m.along (l.key.length + 2)⟩]

def pair (m : Mark) (l : Line) : Node × Node :=
  (.scalar ⟨m, none, .scalar true l.key⟩,
    .scalar ⟨m.along (l.key.length + 2), none, .scalar false l.value⟩)

def Fits (l : Line) : Prop :=
  l.key.length ≤ 1024

end Line

namespace Scanner

theorem token?_word {c : Char} (hc : isLetter c = true) (m : Mark) (rest : List Cell)
    (s : Scanner) (hs : s.rest = ⟨c, m⟩ :: rest) : s.token? ⟨c, m⟩ rest = s.plain? := by
  have hne (d : Char) (hd : isLetter d = false) : (c == d) = false :=
    beq_false_of_ne (ne_of_isLetter hc hd)
  have hi : startsPlain s.inFlow c rest = true := by
    have hm : c ∉ indicators := fun hm ↦ by
      have hn : indicators.all (!isLetter ·) = true := by decide
      simpa [hc] using List.all_eq_true.1 hn c hm
    simp [startsPlain, isGap_of_isLetter hc, hm]
  have hr (d : Char) (hd : isLetter d = false) : isRule d s.rest = false := by
    rw [hs]
    exact isRule_eq_false (.inl (ne_of_isLetter hc hd)) rest
  simp [token?, hr '-' rfl, hr '.' rfl, hne '%' rfl, hne '[' rfl, hne '\x7b' rfl, hne ']' rfl,
    hne '\x7d' rfl, hne ',' rfl, hne '-' rfl, hne '?' rfl, hne ':' rfl, hne '*' rfl, hne '&' rfl,
    hne '!' rfl, hne '|' rfl, hne '>' rfl, hne '\'' rfl, hne '"' rfl, hi]

theorem run?_congr {s s' : Scanner} (h : s.skip = s'.skip) (fuel : Nat) :
    run? fuel s = run? fuel s' := by
  cases fuel with
  | zero => rfl
  | succ fuel => rw [run?, run?, h]

/-- What a visible character does outside of brackets where no block ends. -/
theorem run?_visible {c : Char} {m : Mark} {rest : List Cell} {s : Scanner}
    (hs : s.rest = ⟨c, m⟩ :: rest) (hf : s.suspended = []) (hc : s.column ≤ m.column + 1)
    (hg : isGap c = false) (hn : c ≠ '#') (hb : c ≠ '\uFEFF') (fuel : Nat) :
    run? (fuel + 1) s = (refresh? m s.candidate).bind fun candidate ↦
      ({ s with candidate }.token? ⟨c, m⟩ rest).bind (run? fuel) := by
  obtain ⟨cells, last, found, column, outer, keyAllowed, candidate, suspended⟩ := s
  obtain rfl : cells = _ := hs
  obtain rfl : suspended = _ := hf
  have hc : column ≤ m.column + 1 := hc
  have hskip (s : Scanner) (hs : s.rest = ⟨c, m⟩ :: rest) : s.skip = s := by
    simp only [isGap, isSpace, Bool.or_eq_false_iff, beq_eq_false_iff_ne] at hg
    obtain ⟨⟨hspace, htab⟩, hbreak⟩ := hg
    have hr : skipFrom s.inFlow s.keyAllowed false (⟨c, m⟩ :: rest) =
        (s.keyAllowed, ⟨c, m⟩ :: rest) := by
      simp [skipFrom, hbreak, hspace, htab, hn, hb]
    rw [skip, hs, hr]
    exact hs ▸ rfl
  have hdedent (s : Scanner) (hs : s.column ≤ m.column + 1) : s.dedent (m.column + 1) = s := by
    rw [dedent]
    split
    · rfl
    · cases ho : s.outer with
      | nil => rfl
      | cons i outer => rw [closeBlocks, if_neg (by omega)]
  have hmark (s : Scanner) (hs : s.rest = ⟨c, m⟩ :: rest) : s.mark = m := by rw [mark, hs]
  rw [run?, hskip _ rfl, dropStale?, hmark _ rfl]
  cases refresh? m candidate with
  | none => rfl
  | some k =>
    have hd := hdedent ⟨⟨c, m⟩ :: rest, last, found, column, outer, keyAllowed, k, []⟩ hc
    simp [hmark, hd]

section Line

variable {m colon space quoted : Mark} {rest : List Cell} {last : Mark} {found : List Token}
  {column : Nat} {outer : List Nat}

theorem run?_key {k : List Char} (hk : k.all isLetter = true) (hne : k ≠ [])
    (hc : column ≤ m.column + 1) (fuel : Nat) :
    run? (fuel + 1) ⟨onLine m k ++ ⟨':', colon⟩ :: ⟨' ', space⟩ :: rest, last, found, column, outer,
        true, none, []⟩ =
      run? fuel ⟨⟨':', colon⟩ :: ⟨' ', space⟩ :: rest, last,
        ⟨.scalar true (String.ofList k), m⟩ :: found, column, outer, false,
        some ⟨column == m.column + 1, found.length, m⟩, []⟩ := by
  cases k with
  | nil => exact absurd rfl hne
  | cons c k =>
    have hl : isLetter c = true := List.all_eq_true.1 hk c List.mem_cons_self
    have hp : Scalar.plain? false column .empty
        (⟨c, m⟩ :: (onLine m.next k ++ ⟨':', colon⟩ :: ⟨' ', space⟩ :: rest)) =
          some ⟨c :: k, ⟨':', colon⟩ :: ⟨' ', space⟩ :: rest, false⟩ :=
      Scalar.plain?_word hk m column colon space rest
    rw [run?_visible rfl rfl hc (isGap_of_isLetter hl) (ne_of_isLetter hl rfl)
      (ne_of_isLetter hl rfl), refresh?, Option.bind_some, token?_word hl _ _ _ rfl]
    simp [plain?, saveCandidate?, dropCandidate?, inFlow, mark, push, onLine, hp]

def opening (m : Mark) (column : Nat) : List Token :=
  if column ≤ m.column then [⟨.blockMappingStart, m⟩] else []

theorem token?_colon {s : Scanner} (hs : s.rest = ⟨':', colon⟩ :: ⟨' ', space⟩ :: rest) :
    s.token? ⟨':', colon⟩ (⟨' ', space⟩ :: rest) = s.value? := by
  have hr (d : Char) (hd : ':' ≠ d) : isRule d s.rest = false := by
    rw [hs]
    exact isRule_eq_false (.inl hd) _
  have hg : startsGap (⟨' ', space⟩ :: rest) = true := rfl
  simp [token?, hr '-' (by decide), hr '.' (by decide), hg]

theorem value?_of_candidate {s : Scanner} {k : Candidate} (h : s.candidate = some k) :
    s.value? = some ({ (s.insert k.tokens .key k.mark).openBlock .blockMappingStart k.mark k.tokens
      with candidate := none, keyAllowed := false }.take 1 .value) := by
  rw [value?, h]

/-- A colon after a key puts in the sign of the key, and opens a mapping where none is open. -/
theorem run?_colon {key : Token} (hl : colon.line = m.line) (hi : colon.index ≤ m.index + 1024)
    (hc : column ≤ m.column + 1) (hm : m.column ≤ colon.column) (required : Bool) (fuel : Nat) :
    run? (fuel + 1) ⟨⟨':', colon⟩ :: ⟨' ', space⟩ :: rest, last, key :: found, column, outer, false,
        some ⟨required, found.length, m⟩, []⟩ =
      run? fuel ⟨⟨' ', space⟩ :: rest, last,
        ⟨.value, colon⟩ :: key :: ⟨.key, m⟩ :: (opening m column ++ found), m.column + 1,
        if column ≤ m.column then column :: outer else outer, false, none, []⟩ := by
  have hcc : column ≤ colon.column + 1 := by omega
  have hs : isStale colon ⟨required, found.length, m⟩ = false := by
    simp only [isStale, Bool.or_eq_false_iff, decide_eq_false_iff_not]
    omega
  rw [run?_visible rfl rfl hcc rfl (by decide) (by decide), refresh?, if_neg (by simp [hs]),
    Option.bind_some, token?_colon rfl, value?_of_candidate rfl]
  by_cases h : column ≤ m.column
  · have htwo : found.length + 1 + 1 - found.length = 2 := by omega
    simp [insert, openBlock, inFlow, h, take, push, mark, htwo, opening]
  · obtain rfl : column = m.column + 1 := by omega
    simp +arith [insert, openBlock, inFlow, take, push, mark, opening]

/-- A colon too far from the start of a key is no sign of one. -/
theorem run?_colon_stale {key : Token} (hi : m.index + 1024 < colon.index)
    (hc : column ≤ colon.column + 1) (required : Bool) (fuel : Nat) :
    run? (fuel + 1) ⟨⟨':', colon⟩ :: ⟨' ', space⟩ :: rest, last, key :: found, column, outer, false,
        some ⟨required, found.length, m⟩, []⟩ = none := by
  have hs : isStale colon ⟨required, found.length, m⟩ = true := by simp [isStale, hi]
  rw [run?_visible rfl rfl hc rfl (by decide) (by decide), refresh?, if_pos hs]
  cases required with
  | true => rfl
  | false =>
    rw [if_neg (by simp), Option.bind_some, token?_colon rfl]
    rfl

theorem token?_quote {s : Scanner} (hs : s.rest = ⟨'\'', quoted⟩ :: rest)
    (hq : quoted.column ≠ 0) :
    s.token? ⟨'\'', quoted⟩ rest = s.quoted? (Scalar.single? .empty) := by
  have hr (d : Char) : isRule d s.rest = false := by
    rw [hs]
    exact isRule_eq_false (.inr hq) _
  simp [token?, hr]

theorem skip_space (s : Scanner) (cells : List Cell) (h : s.rest = ⟨' ', space⟩ :: cells) :
    s.skip = { s with rest := cells }.skip := by
  have hi : { s with rest := cells }.inFlow = s.inFlow := rfl
  simp [skip, h, skipFrom, isBreak, hi]

theorem skip_newline (s : Scanner) (cells : List Cell) (h : s.rest = ⟨'\n', space⟩ :: cells)
    (hf : s.suspended = []) : s.skip = { s with rest := cells, keyAllowed := true }.skip := by
  have hi : s.inFlow = false := by simp [inFlow, hf]
  have hi' : { s with rest := cells, keyAllowed := true }.inFlow = false := hi
  simp [skip, h, skipFrom, isBreak, hi, hi']

theorem run?_value {v : List Char} (hv : v.all isPrintable = true)
    (hc : column ≤ quoted.column + 1) (hq : quoted.column ≠ 0)
    (hr : ∀ c ∈ rest.head?, c.char ≠ '\'') (fuel : Nat) :
    run? (fuel + 1) ⟨⟨' ', space⟩ :: ⟨'\'', quoted⟩ ::
        (onLine quoted.next (Scalar.quote v ++ ['\'']) ++ rest), last, found, column, outer, false,
        none, []⟩ =
      run? fuel ⟨rest, last, ⟨.scalar false (String.ofList v), quoted⟩ :: found, column, outer,
        false, none, []⟩ := by
  have hs := Scalar.single?_quote (m := quoted.next) hv (Nat.succ_ne_zero _) [] hr
  rw [run?_congr (skip_space _ _ rfl), run?_visible rfl rfl hc rfl (by decide) (by decide),
    refresh?, Option.bind_some, token?_quote rfl hq]
  simp [quoted?, property?, saveCandidate?, mark, push, Gap.empty, hs]

end Line

section Lines

variable {m : Mark} {rest : List Cell} {last : Mark} {found : List Token} {column : Nat}
  {outer : List Nat} {l : Line}

theorem onLine_text (l : Line) (m : Mark) :
    onLine m l.text = onLine m l.key.toList ++ ⟨':', m.along l.key.length⟩ ::
      ⟨' ', m.along (l.key.length + 1)⟩ :: ⟨'\'', m.along (l.key.length + 2)⟩ ::
      onLine (m.along (l.key.length + 3)) (Scalar.quote l.value.toList ++ ['\'']) := by
  rw [Line.text, onLine_append, String.length_toList]
  rfl

/-- What one line does to a scan: three tokens, and the sign of its key. -/
theorem run?_line (hf : l.Fits) (hm : m.column = 0) (hc : column ≤ 1)
    (hr : ∀ c ∈ rest.head?, c.char ≠ '\'') (fuel : Nat) :
    run? (fuel + 3) ⟨onLine m l.text ++ rest, last, found, column, outer, true, none, []⟩ =
      run? fuel ⟨rest, last, (l.tokens m).reverse ++ (opening m column ++ found), 1,
        if column ≤ 0 then column :: outer else outer, false, none, []⟩ := by
  have hk : l.key.toList ≠ [] := by simpa using l.key_ne
  have hl : (m.along l.key.length).line = m.line := rfl
  have hi : (m.along l.key.length).index ≤ m.index + 1024 := Nat.add_le_add_left hf m.index
  have hle : m.column ≤ (m.along l.key.length).column := Nat.le_add_right _ _
  have hn : m.along (l.key.length + 3) = (m.along (l.key.length + 2)).next := rfl
  have hq : (m.along (l.key.length + 2)).column ≠ 0 := by simp [Mark.along]
  rw [onLine_text, List.append_assoc, List.cons_append, List.cons_append, List.cons_append,
    run?_key l.isWord_key hk (by omega), run?_colon hl hi (by omega) hle, hn,
    run?_value l.isPrintable_value (by omega) hq hr, hm]
  simp [Line.tokens]

theorem run?_line_long (hf : ¬ l.Fits) (hc : column ≤ m.column + 1) (fuel : Nat) :
    run? (fuel + 3) ⟨onLine m l.text ++ rest, last, found, column, outer, true, none, []⟩ =
      none := by
  have hk : l.key.toList ≠ [] := by simpa using l.key_ne
  have hi : m.index + 1024 < (m.along l.key.length).index :=
    Nat.add_lt_add_left (Nat.lt_of_not_le hf) m.index
  have hcc : column ≤ (m.along l.key.length).column + 1 := by
    simp only [Mark.along]
    omega
  rw [onLine_text, List.append_assoc, List.cons_append, List.cons_append, List.cons_append,
    run?_key l.isWord_key hk hc, run?_colon_stale hi hcc]

theorem run?_nil (last : Mark) (found : List Token) (keyAllowed : Bool) (fuel : Nat) :
    ∃ e, run? (fuel + 1) ⟨[], last, found, 1, [0], keyAllowed, none, []⟩ =
      some (found.reverse ++ [⟨.blockEnd, e⟩], e) := by
  simp [run?, skip, skipFrom, dropStale?, refresh?, dedent, inFlow, closeBlocks, finish?,
    dropCandidate?, push, mark]

end Lines

end Scanner

namespace Line

theorem forall_mem_text (l : Line) {p : Char → Prop} (hk : ∀ c, isLetter c = true → p c)
    (hv : ∀ c, isPrintable c = true → p c) : ∀ c ∈ l.text, p c := by
  have hquote (c : Char) (hc : c ∈ Scalar.quote l.value.toList) : p c := by
    obtain ⟨d, hd, hc⟩ := List.mem_flatMap.1 hc
    obtain rfl : c = d := by
      split at hc <;> simp_all
    exact hv c (List.all_eq_true.1 l.isPrintable_value c hd)
  intro c hc
  simp only [text, List.mem_append, List.mem_cons, List.not_mem_nil, or_false] at hc
  obtain hc | rfl | rfl | rfl | hc | rfl := hc
  · exact hk c (List.all_eq_true.1 l.isWord_key c hc)
  · exact hv _ rfl
  · exact hv _ rfl
  · exact hv _ rfl
  · exact hquote c hc
  · exact hv _ rfl

theorem isBreak_text (l : Line) : ∀ c ∈ l.text, isBreak c = false :=
  l.forall_mem_text (fun _ ↦ isBreak_of_isLetter) fun _ ↦ isBreak_of_isPrintable

theorem isAllowed_text (l : Line) : ∀ c ∈ l.text, isAllowed c = true :=
  l.forall_mem_text (fun _ ↦ isAllowed_of_isLetter) fun _ ↦ isAllowed_of_isPrintable

def after (ended : Bool) (lines : List Line) : List Char :=
  lines.flatMap (fun l ↦ '\n' :: l.text) ++ if ended then ['\n'] else []

theorem document_cons (ended : Bool) (l : Line) (lines : List Line) :
    document ended (l :: lines) = l.text ++ after ended lines := by
  have hi (l : Line) : ['\n'].intercalate ((l :: lines).map text) =
      l.text ++ lines.flatMap (fun l ↦ '\n' :: l.text) := by
    induction lines generalizing l with
    | nil => simp
    | cons l' lines ih =>
      rw [List.map_cons, List.map_cons, List.intercalate_cons_cons, ← List.map_cons, ih]
      simp
  rw [document, hi, after, List.append_assoc]

theorem after_cons (ended : Bool) (l : Line) (lines : List Line) :
    after ended (l :: lines) = '\n' :: (l.text ++ after ended lines) := by
  simp [after]

/-- The line break after a line keeps its closing quote apart from other quotes. -/
theorem head?_after (ended : Bool) (lines : List Line) (m : Mark) :
    ∀ c ∈ (ofChars m (after ended lines)).1.head?, c.char ≠ '\'' := by
  have hn (t : List Char) : ∀ c ∈ (ofChars m ('\n' :: t)).1.head?, c.char ≠ '\'' := by
    rw [ofChars_newline]
    rintro c ⟨⟩
    exact (by decide : '\n' ≠ '\'')
  cases lines with
  | nil =>
    cases ended with
    | false =>
      rintro c ⟨⟩
    | true => exact hn []
  | cons l lines =>
    rw [after_cons]
    exact hn _

def allTokens (m : Mark) (lines : List Line) : List Token :=
  (placed m lines).flatMap fun p ↦ p.2.tokens p.1

theorem length_allTokens (m : Mark) (lines : List Line) :
    (allTokens m lines).length = 4 * (placed m lines).length := by
  induction lines generalizing m with
  | nil => rfl
  | cons l lines ih =>
    have hi := ih ((m.along l.text.length).nextLine 1)
    have ht : (l.tokens m).length = 4 := rfl
    rw [allTokens] at hi
    rw [allTokens, placed, List.flatMap_cons, List.length_append, hi, ht, List.length_cons]
    omega

end Line

namespace Scanner

open Line

variable {m : Mark} {found : List Token} {l : Line} {lines : List Line}

theorem fuel_cons (fuel : Nat) (l : Line) (lines : List Line) :
    fuel + 3 * (l :: lines).length + 1 = fuel + 3 * lines.length + 1 + 3 := by
  rw [List.length_cons]
  omega

theorem run?_after_cons (ended : Bool) (l : Line) (lines : List Line) (m : Mark)
    (found : List Token) (fuel : Nat) :
    let cells := ofChars m (after ended (l :: lines))
    let later := ofChars ((m.nextLine 1).along l.text.length) (after ended lines)
    run? fuel ⟨cells.1, cells.2, found, 1, [0], false, none, []⟩ =
      run? fuel ⟨onLine (m.nextLine 1) l.text ++ later.1, later.2, found, 1, [0], true, none,
        []⟩ := by
  intro cells later
  have hc : cells = (⟨'\n', m⟩ :: (onLine (m.nextLine 1) l.text ++ later.1), later.2) := by
    simp only [cells, later, after_cons, ofChars_newline, ofChars_append l.isBreak_text]
  rw [hc, run?_congr (skip_newline _ _ rfl rfl)]

/-- All lines after the first, when the mapping is open, and then the end. -/
theorem run?_lines (ended : Bool) (hf : ∀ l ∈ lines, l.Fits) (m : Mark) (found : List Token)
    (fuel : Nat) :
    let cells := ofChars m (after ended lines)
    ∃ e, run? (fuel + 3 * lines.length + 1) ⟨cells.1, cells.2, found, 1, [0], false, none, []⟩ =
      some (found.reverse ++ allTokens (m.nextLine 1) lines ++ [⟨.blockEnd, e⟩], e) := by
  induction lines generalizing m found fuel with
  | nil =>
    cases ended with
    | false =>
      obtain ⟨e, he⟩ := run?_nil m found false fuel
      refine ⟨e, he.trans ?_⟩
      simp [allTokens, placed]
    | true =>
      obtain ⟨e, he⟩ := run?_nil (m.nextLine 1) found true fuel
      have hc : ofChars m (after true []) = ([⟨'\n', m⟩], m.nextLine 1) := rfl
      refine ⟨e, ?_⟩
      rw [hc, run?_congr (skip_newline _ [] rfl rfl), List.length_nil]
      simpa [allTokens, placed] using he
  | cons l lines ih =>
    obtain ⟨hl, hf⟩ := List.forall_mem_cons.1 hf
    have hm : (m.nextLine 1).column = 0 := rfl
    obtain ⟨e, he⟩ := ih hf ((m.nextLine 1).along l.text.length)
      ((l.tokens (m.nextLine 1)).reverse ++ found) fuel
    refine ⟨e, ?_⟩
    rw [run?_after_cons, fuel_cons, run?_line hl hm le_rfl (head?_after ended lines _)]
    simpa [opening, hm, allTokens, placed] using he

theorem run?_lines_long (ended : Bool) (h : ¬ ∀ l ∈ lines, l.Fits) (m : Mark)
    (found : List Token) (fuel : Nat) :
    let cells := ofChars m (after ended lines)
    run? (fuel + 3 * lines.length + 1) ⟨cells.1, cells.2, found, 1, [0], false, none, []⟩ =
      none := by
  induction lines generalizing m found fuel with
  | nil =>
    exact absurd (List.forall_mem_nil _) h
  | cons l lines ih =>
    have hm : (m.nextLine 1).column = 0 := rfl
    intro cells
    rw [run?_after_cons, fuel_cons]
    by_cases hl : l.Fits
    · rw [List.forall_mem_cons, not_and] at h
      rw [run?_line hl hm le_rfl (head?_after ended lines _)]
      simp only [Nat.le_zero, Nat.one_ne_zero, if_false]
      exact ih (h hl) _ _ fuel
    · exact run?_line_long hl (Nat.le_add_left _ _) _

theorem start_document (ended : Bool) (l : Line) (lines : List Line) :
    let cells := ofChars .start (document ended (l :: lines))
    let later := ofChars (Mark.start.along l.text.length) (after ended lines)
    start cells.1 cells.2 =
      ⟨onLine .start l.text ++ later.1, later.2, [], 0, [], true, none, []⟩ := by
  intro cells later
  have hc : cells = (onLine .start l.text ++ later.1, later.2) := by
    simp only [cells, later, document_cons, ofChars_append l.isBreak_text]
  rw [hc]
  rfl

theorem run?_document (ended : Bool) (hf : ∀ l' ∈ l :: lines, l'.Fits) (fuel : Nat) :
    let cells := ofChars .start (document ended (l :: lines))
    ∃ e, run? (fuel + 3 * (l :: lines).length + 1) (.start cells.1 cells.2) =
      some (⟨.blockMappingStart, .start⟩ :: (allTokens .start (l :: lines) ++ [⟨.blockEnd, e⟩]),
        e) := by
  obtain ⟨hl, hf⟩ := List.forall_mem_cons.1 hf
  obtain ⟨e, he⟩ := run?_lines ended hf (Mark.start.along l.text.length)
    ((l.tokens .start).reverse ++ [⟨.blockMappingStart, .start⟩]) fuel
  refine ⟨e, ?_⟩
  rw [start_document, fuel_cons, run?_line hl rfl (Nat.zero_le _) (head?_after ended lines _)]
  simpa [opening, allTokens, placed] using he

theorem run?_document_long (ended : Bool) (h : ¬ ∀ l' ∈ l :: lines, l'.Fits) (fuel : Nat) :
    let cells := ofChars .start (document ended (l :: lines))
    run? (fuel + 3 * (l :: lines).length + 1) (.start cells.1 cells.2) = none := by
  intro cells
  rw [start_document, fuel_cons]
  by_cases hl : l.Fits
  · rw [List.forall_mem_cons, not_and] at h
    rw [run?_line hl rfl (Nat.zero_le _) (head?_after ended lines _)]
    exact run?_lines_long ended (h hl) _ _ fuel
  · exact run?_line_long hl (Nat.zero_le _) _

end Scanner

namespace Line

variable {l : Line} {lines : List Line}

theorem three_le_length_text (l : Line) : 3 ≤ l.text.length := by
  simp [text]
  omega

theorem length_after_le (ended : Bool) (lines : List Line) (m : Mark) :
    3 * lines.length ≤ (ofChars m (after ended lines)).1.length := by
  induction lines generalizing m with
  | nil => exact Nat.zero_le _
  | cons l lines ih =>
    have hi := ih ((m.nextLine 1).along l.text.length)
    have hl := l.three_le_length_text
    simp only [after_cons, ofChars_newline, ofChars_append l.isBreak_text, List.length_cons,
      List.length_append, length_onLine]
    omega

theorem length_document_le (ended : Bool) (l : Line) (lines : List Line) :
    3 * (l :: lines).length ≤ (ofChars .start (document ended (l :: lines))).1.length := by
  have ha := length_after_le ended lines (Mark.start.along l.text.length)
  have hl := l.three_le_length_text
  simp only [document_cons, ofChars_append l.isBreak_text, List.length_cons, List.length_append,
    length_onLine]
  omega

theorem ofText?_document (ended : Bool) (l : Line) (lines : List Line) :
    Cell.ofText? (document ended (l :: lines)) =
      some (ofChars .start (document ended (l :: lines))) := by
  have ha : (document ended (l :: lines)).all isAllowed = true := by
    rw [List.all_eq_true, document_cons, after]
    intro c hc
    simp only [List.mem_append, List.mem_flatMap, List.mem_cons] at hc
    obtain hc | ⟨l', -, rfl | hc⟩ | hc := hc
    · exact l.isAllowed_text c hc
    · rfl
    · exact l'.isAllowed_text c hc
    · obtain rfl : c = '\n' := by
        cases ended <;> simp_all
      rfl
  have hb : dropByteOrderMark (document ended (l :: lines)) = document ended (l :: lines) := by
    cases hk : l.key.toList with
    | nil => exact absurd hk (by simpa using l.key_ne)
    | cons c k =>
      have hc : isLetter c = true :=
        List.all_eq_true.1 l.isWord_key c (by rw [hk]; exact List.mem_cons_self)
      rw [document_cons, text, hk, List.cons_append, List.cons_append, dropByteOrderMark]
      rintro s ⟨⟩
      cases hc
  rw [Cell.ofText?, if_pos ha, hb]

theorem exists_fuel (ended : Bool) (l : Line) (lines : List Line) :
    let cells := ofChars .start (document ended (l :: lines))
    ∃ fuel, Token.ofText? (document ended (l :: lines)) =
      Scanner.run? (fuel + 3 * (l :: lines).length + 1) (.start cells.1 cells.2) := by
  obtain ⟨fuel, hfuel⟩ := Nat.exists_eq_add_of_le' (length_document_le ended l lines)
  refine ⟨fuel, ?_⟩
  rw [Token.ofText?, ofText?_document, ← hfuel]
  rfl

theorem tokens_document (ended : Bool) (hf : ∀ l' ∈ l :: lines, l'.Fits) :
    ∃ e, Token.ofText? (document ended (l :: lines)) =
      some (⟨.blockMappingStart, .start⟩ :: (allTokens .start (l :: lines) ++ [⟨.blockEnd, e⟩]),
        e) := by
  obtain ⟨fuel, hfuel⟩ := exists_fuel ended l lines
  obtain ⟨e, he⟩ := Scanner.run?_document ended hf fuel
  exact ⟨e, hfuel.trans he⟩

theorem tokens_document_long (ended : Bool) (h : ¬ ∀ l' ∈ l :: lines, l'.Fits) :
    Token.ofText? (document ended (l :: lines)) = none := by
  obtain ⟨fuel, hfuel⟩ := exists_fuel ended l lines
  exact hfuel.trans (Scanner.run?_document_long ended h fuel)

end Line

namespace Node

variable (handles : Handles) (fuel : Nat) (m : Mark) (l : Line) (ts : List Token) (last : Mark)
  (anchors : List (String × Head))

theorem readUnless?_scalar (plain : Bool) (text : String) (mark : Mark) :
    readUnless? handles (fuel + 2) .pair [.key, .value, .blockEnd] mark
        ⟨⟨.scalar plain text, m⟩ :: ts, last, anchors⟩ =
      some (.scalar ⟨m, none, .scalar plain text⟩, ⟨ts, last, anchors⟩) := by
  have hr : read? handles (fuel + 1) .pair ⟨⟨.scalar plain text, m⟩ :: ts, last, anchors⟩ =
      some (.scalar ⟨m, none, .scalar plain text⟩, ⟨ts, last, anchors⟩) := rfl
  simp [readUnless?, Input.isAt, Input.next?, hr]

theorem blockPairs?_line :
    blockPairs? handles (fuel + 3) ⟨l.tokens m ++ ts, last, anchors⟩ =
      (blockPairs? handles (fuel + 2) ⟨ts, last, anchors⟩).map fun r ↦ (l.pair m :: r.1, r.2) := by
  rw [blockPairs?]
  simp only [Line.tokens, List.cons_append, List.nil_append, Input.next?, Input.drop,
    List.head?_cons, Option.map_some, List.drop_one, List.tail_cons, readUnless?_scalar,
    Option.bind_eq_bind, Option.bind_some, Input.isAt]
  cases blockPairs? handles (fuel + 2) ⟨ts, last, anchors⟩ <;> rfl

theorem blockPairs?_lines (places : List (Mark × Line)) (e : Mark) :
    blockPairs? handles (fuel + places.length + 3)
        ⟨places.flatMap (fun p ↦ p.2.tokens p.1) ++ ⟨.blockEnd, e⟩ :: ts, last, anchors⟩ =
      some (places.map fun p ↦ p.2.pair p.1, ⟨ts, last, anchors⟩) := by
  induction places with
  | nil => rfl
  | cons p places ih =>
    obtain ⟨m, l⟩ := p
    have hfuel : fuel + ((m, l) :: places).length + 3 = fuel + places.length + 1 + 3 := by
      rw [List.length_cons]
      omega
    rw [hfuel, List.flatMap_cons, List.append_assoc, blockPairs?_line]
    exact congrArg (Option.map _) ih

theorem read?_mapping {pairs : List (Node × Node)} {i : Input}
    (h : blockPairs? handles fuel ⟨ts, last, anchors⟩ = some (pairs, i)) :
    read? handles (fuel + 1) .block ⟨⟨.blockMappingStart, m⟩ :: ts, last, anchors⟩ =
      some (.mapping ⟨m, none, .mapping⟩ pairs, i) := by
  have hr : read? handles (fuel + 1) .block ⟨⟨.blockMappingStart, m⟩ :: ts, last, anchors⟩ =
      (blockPairs? handles fuel ⟨ts, last, anchors⟩).bind fun r ↦
        some (.mapping ⟨m, none, .mapping⟩ r.1, r.2) := rfl
  rw [hr, h]
  rfl

theorem ofTokens?_mapping {node : Node} {anchors' : List (String × Head)}
    (h : read? standardHandles (fuelFor (⟨.blockMappingStart, m⟩ :: ts)) .block
      ⟨⟨.blockMappingStart, m⟩ :: ts, last, []⟩ = some (node, ⟨[], last, anchors'⟩)) :
    ofTokens? (⟨.blockMappingStart, m⟩ :: ts) last = some (some node) := by
  have hd : directives? false [] (⟨.blockMappingStart, m⟩ :: ts) =
      some (false, standardHandles, ⟨.blockMappingStart, m⟩ :: ts) := rfl
  have ht : ofTokens? (⟨.blockMappingStart, m⟩ :: ts) last =
      (read? standardHandles (fuelFor (⟨.blockMappingStart, m⟩ :: ts)) .block
        ⟨⟨.blockMappingStart, m⟩ :: ts, last, []⟩).bind fun r ↦
          (closed? r.2.tokens).bind fun _ ↦ some (some r.1) := by
    rw [ofTokens?, hd]
    · rfl
    · exact List.cons_ne_nil _ _
  rw [ht, h]
  rfl

/-- A document is read as one mapping with the pairs of all lines. -/
theorem ofText?_document {l : Line} {lines : List Line} (ended : Bool)
    (hf : ∀ l' ∈ l :: lines, l'.Fits) :
    ofText? (Line.document ended (l :: lines)) =
      some (some (.mapping ⟨.start, none, .mapping⟩
        ((Line.placed .start (l :: lines)).map fun p ↦ p.2.pair p.1))) := by
  obtain ⟨e, he⟩ := Line.tokens_document ended hf
  have hfuel : fuelFor (⟨.blockMappingStart, .start⟩ ::
        (Line.allTokens .start (l :: lines) ++ [⟨.blockEnd, e⟩])) =
      15 * (Line.placed .start (l :: lines)).length + 8 +
        (Line.placed .start (l :: lines)).length + 3 + 1 := by
    simp only [fuelFor, List.length_cons, List.length_append, Line.length_allTokens,
      List.length_nil]
    omega
  have hp := blockPairs?_lines standardHandles (15 * (Line.placed .start (l :: lines)).length + 8)
    [] e [] (Line.placed .start (l :: lines)) e
  have hr := read?_mapping standardHandles _ .start _ e [] hp
  rw [ofText?, he, Option.bind_eq_bind, Option.bind_some]
  apply ofTokens?_mapping
  rwa [hfuel]

theorem ofText?_document_long {l : Line} {lines : List Line} (ended : Bool)
    (h : ¬ ∀ l' ∈ l :: lines, l'.Fits) : ofText? (Line.document ended (l :: lines)) = none := by
  rw [ofText?, Line.tokens_document_long ended h]
  rfl

end Node

end CreditRoll.Yaml
