import CreditRoll.Json.Writer
import CreditRoll.Proofs.JsonText

namespace CreditRoll.Json

open Token

def pieceOf (c : Char) : Piece :=
  if c.toNat < 0x20 then .unit c.toNat else .char c

theorem hexDigit_mem {n : Nat} (h : n < 16) : (hexDigit n, n) ∈ hexDigits := by
  have hd : ∀ n < 16, (hexDigit n, n) ∈ hexDigits := by decide
  exact hd n h

theorem writes_writeChar (c : Char) {text : List Char} {ps : List Piece} (h : Writes text ps) :
    Writes (writeChar c ++ text) (pieceOf c :: ps) := by
  by_cases hq : c = '"'
  · subst hq
    exact .escape (by decide) h
  by_cases hb : c = '\\'
  · subst hb
    exact .escape (by decide) h
  by_cases hc : c.toNat < 0x20
  · have hu := Writes.unit (a := '0') (b := '0') (i := 0) (j := 0) (by decide) (by decide)
      (hexDigit_mem (n := c.toNat / 16) (by omega))
      (hexDigit_mem (Nat.mod_lt c.toNat (by decide))) h
    have hv : ((0 * 16 + 0) * 16 + c.toNat / 16) * 16 + c.toNat % 16 = c.toNat := by omega
    rw [hv] at hu
    simpa only [writeChar, pieceOf, if_neg hq, if_neg hb, if_pos hc, List.cons_append,
      List.nil_append] using hu
  · have hp := Writes.char (Nat.le_of_not_lt hc) hq hb h
    simpa only [writeChar, pieceOf, if_neg hq, if_neg hb, if_neg hc, List.cons_append,
      List.nil_append] using hp

theorem writes_flatMap (s : List Char) : Writes (s.flatMap writeChar) (s.map pieceOf) := by
  induction s with
  | nil => exact .nil
  | cons c s ih => exact writes_writeChar c ih

theorem spells_map (s : List Char) : Spells (s.map pieceOf) s := by
  induction s with
  | nil => exact .nil
  | cons c s ih =>
    rw [List.map_cons, pieceOf]
    split
    · have hu := Spells.unit (n := c.toNat) (.inl (by omega)) ih
      rwa [Char.ofNat_toNat] at hu
    · exact .char ih

theorem lexeme_writeString (s : Option String) : Lexeme (writeString s) (.string s) := by
  cases s with
  | some s =>
    have hs (t : List Char) :
        Spells (s.toList.map pieceOf) t ↔ some s = some (String.ofList t) := by
      have hp := (spelled?_iff _ _).2 (spells_map s.toList)
      rw [← spelled?_iff, hp]
      simp [String.ext_iff]
    have hl := Lexeme.string (writes_flatMap s.toList) hs
    simpa only [writeString, List.cons_append] using hl
  | none =>
    have hw : Writes ['\\', 'u', 'd', '8', '0', '0'] [.unit (((13 * 16 + 8) * 16 + 0) * 16 + 0)] :=
      .unit (by decide) (by decide) (by decide) (by decide) .nil
    refine Lexeme.string hw fun t ↦ ?_
    rw [← spelled?_iff]
    simp [spelled?]

inductive Proper : Json → Prop
  | null : Proper .null
  | bool {b : Bool} : Proper (.bool b)
  | number {lexeme : String} (h : IsNumber lexeme.toList) : Proper (.number lexeme)
  | string {s : Option String} : Proper (.string s)
  | array {items : List Json} (h : ∀ x ∈ items, Proper x) : Proper (.array items)
  | object {members : List (Option String × Json)} (h : ∀ m ∈ members, Proper m.2) :
      Proper (.object members)

/-- What the writer makes of the value begins every text that goes on as a text can. -/
def Lays (v : Json) : Prop :=
  ∀ rest ts, Layout rest ts → ¬ Begins IsNumeric rest → Layout (write v ++ rest) (v.tokens ++ ts)

theorem layout_symbol {l rest : List Char} {t : Token} {ts : List Token} (hl : (l, t) ∈ symbols)
    (h : Layout rest ts) : Layout (l ++ rest) (t :: ts) := by
  have hs : ∀ p ∈ symbols, ∀ n, p.2 ≠ .number n := by simp [symbols]
  exact .cons (w := []) (by simp) (.symbol hl) (fun n hn ↦ absurd hn (hs _ hl n)) h

theorem layout_string (s : Option String) {rest : List Char} {ts : List Token}
    (h : Layout rest ts) : Layout (writeString s ++ rest) (.string s :: ts) :=
  .cons (w := []) (by simp) (lexeme_writeString s) (by simp) h

theorem not_begins_symbol {l : List Char} {t : Token} (hl : (l, t) ∈ symbols.take 6)
    (rest : List Char) : ¬ Begins IsNumeric (l ++ rest) := by
  have hs : ∀ p ∈ symbols.take 6, ¬ Begins IsNumeric (p.1 ++ rest) := by
    simp [symbols, Begins, IsNumeric]
  exact hs _ hl

theorem layout_items {v : Json} {vs : List Json} (h : ∀ x ∈ v :: vs, x.Lays) {rest : List Char}
    {ts : List Token} (hr : Layout rest ts) :
    Layout (writeItems (v :: vs) ++ ']' :: rest)
      (v.tokens ++ (moreItems vs ++ .closeArray :: ts)) := by
  induction vs generalizing v with
  | nil =>
    exact h v List.mem_cons_self _ _ (layout_symbol (l := [']']) (by decide) hr)
      (not_begins_symbol (l := [']']) (t := .closeArray) (by decide) rest)
  | cons v' vs ih =>
    obtain ⟨hv, hvs⟩ := List.forall_mem_cons.1 h
    have hl := hv _ _ (layout_symbol (l := [',']) (t := .comma) (by decide) (ih hvs))
      (not_begins_symbol (l := [',']) (t := .comma) (by decide) _)
    simpa only [writeItems, moreItems, List.append_assoc, List.cons_append, List.nil_append]
      using hl

theorem layout_members {m : Option String × Json} {ms : List (Option String × Json)}
    (h : ∀ x ∈ m :: ms, x.2.Lays) {rest : List Char} {ts : List Token} (hr : Layout rest ts) :
    Layout (writeMembers (m :: ms) ++ '\x7d' :: rest)
      (.string m.1 :: .colon :: (m.2.tokens ++ (moreMembers ms ++ .closeObject :: ts))) := by
  have hc (l : List Char) (ts : List Token) (h : Layout l ts) : Layout (':' :: l) (.colon :: ts) :=
    layout_symbol (l := [':']) (by decide) h
  induction ms generalizing m with
  | nil =>
    have hl := h m List.mem_cons_self _ _
      (layout_symbol (l := ['\x7d']) (t := .closeObject) (by decide) hr)
      (not_begins_symbol (l := ['\x7d']) (t := .closeObject) (by decide) rest)
    simpa only [writeMembers, moreMembers, List.append_assoc, List.cons_append, List.nil_append]
      using layout_string m.1 (hc _ _ hl)
  | cons m' ms ih =>
    obtain ⟨hm, hms⟩ := List.forall_mem_cons.1 h
    have hl := hm _ _ (layout_symbol (l := [',']) (t := .comma) (by decide) (ih hms))
      (not_begins_symbol (l := [',']) (t := .comma) (by decide) _)
    simpa only [writeMembers, moreMembers, List.append_assoc, List.cons_append, List.nil_append]
      using layout_string m.1 (hc _ _ hl)

theorem lays {v : Json} (h : Proper v) : v.Lays := by
  induction h with
  | null => exact fun rest ts hl _ ↦ layout_symbol (l := "null".toList) (by decide) hl
  | @bool b =>
    cases b with
    | true => exact fun rest ts hl _ ↦ layout_symbol (l := "true".toList) (by decide) hl
    | false => exact fun rest ts hl _ ↦ layout_symbol (l := "false".toList) (by decide) hl
  | @number lexeme hn =>
    intro rest ts hl hr
    have hx := Lexeme.number hn
    rw [String.ofList_toList] at hx
    exact .cons (w := []) (by simp) hx (fun _ _ ↦ hr) hl
  | @string s => exact fun rest ts hl _ ↦ layout_string s hl
  | @array items _ ih =>
    intro rest ts hl hr
    cases items with
    | nil =>
      exact layout_symbol (l := ['[']) (by decide) (layout_symbol (l := [']']) (by decide) hl)
    | cons v vs =>
      have hi := layout_symbol (l := ['[']) (t := .openArray) (by decide) (layout_items ih hl)
      simpa only [write, tokens, List.append_assoc, List.cons_append, List.nil_append] using hi
  | @object members _ ih =>
    intro rest ts hl hr
    cases members with
    | nil =>
      exact layout_symbol (l := ['\x7b']) (by decide) (layout_symbol (l := ['\x7d']) (by decide) hl)
    | cons m ms =>
      have hi := layout_symbol (l := ['\x7b']) (t := .openObject) (by decide) (layout_members ih hl)
      simpa only [write, tokens, List.append_assoc, List.cons_append, List.nil_append] using hi

theorem isText_write {v : Json} (h : Proper v) : IsText (write v) v := by
  have hl := lays h [] [] (.nil (by simp)) (by simp [Begins])
  simpa only [IsText, List.append_nil] using hl

end CreditRoll.Json
