import CreditRoll.Proofs.CommandLine
import Mathlib.Data.List.Forall2

namespace CreditRoll

namespace CommandLine

inductive Gives : Opt → String → Wish → Prop
  | repository {text : String} {r : Repository} (h : Repository.parse? text = some r) :
      Gives .repo text (.repository r)
  | style (s : Style) : Gives .format (Choice.label s) (.style s)
  | order (o : Order) : Gives .order (Choice.label o) (.order o)
  | apiUrl (url : String) : Gives .apiUrl url (.apiUrl url)
  | sort : Gives .sort "" .sort
  | verbose : Gives .verbose "" .verbose

def IsPositional (w : String) : Prop := ∀ c s, w.toList ≠ '-' :: c :: s

def Opt.isSwitch : Opt → Bool
  | sort | verbose | configSchema => true
  | _ => false

inductive Names (o : Opt) : String → Prop
  | long : Names o ("--" ++ o.long)
  | short {c : Char} (h : o.short? = some c) : Names o ("-" ++ String.singleton c)

/-- How an option with a value is written, or one without, or several of those in one word. -/
inductive Spelling where
  | apart (o : Opt) (name text : String) (ho : o.takesValue = true) (hn : Names o name)
      (ht : IsPositional text)
  | joined (o : Opt) (name text : String) (ho : o.takesValue = true) (hn : Names o name)
  | attached (o : Opt) (c : Char) (text : String) (ho : o.takesValue = true)
      (hc : o.short? = some c) (ht : text ≠ "")
  | switch (o : Opt) (ho : o.isSwitch = true)
  | group (os : List Opt) (letters : List Char) (hne : os ≠ [])
      (hl : List.Forall₂ (fun o c ↦ o.isSwitch = true ∧ o.short? = some c) os letters)

namespace Spelling

def words : Spelling → List String
  | apart _ name text _ _ _ => [name, text]
  | joined _ name text _ _ => [name ++ "=" ++ text]
  | attached _ c text _ _ _ => ["-" ++ String.singleton c ++ text]
  | switch o _ => ["--" ++ o.long]
  | group _ letters _ _ => ["-" ++ String.ofList letters]

def options : Spelling → List (Opt × String)
  | apart o _ text _ _ _ | joined o _ text _ _ | attached o _ text _ _ _ => [(o, text)]
  | switch o _ => [(o, "")]
  | group os _ _ _ => os.map (·, "")

/-- A value that begins with an equals sign cannot be attached to a short name. -/
def IsPlain : Spelling → Prop
  | attached _ _ text _ _ _ => text.toList.head? ≠ some '='
  | _ => True

def complete : Spelling → List (Opt × String)
  | apart .. => []
  | s => s.options

/-- The option that the word after it might still go with. -/
def waiting : Spelling → Pending
  | apart o _ text _ _ _ => some (o, some text)
  | _ => none

end Spelling

def spelled (pieces : List Spelling) : List String := pieces.flatMap Spelling.words

def given (pieces : List Spelling) : List (Opt × String) := pieces.flatMap Spelling.options

theorem spelled_cons (s : Spelling) (pieces : List Spelling) :
    spelled (s :: pieces) = s.words ++ spelled pieces := List.flatMap_cons

theorem given_cons (s : Spelling) (pieces : List Spelling) :
    given (s :: pieces) = s.options ++ given pieces := List.flatMap_cons

theorem ofShort?_of_short? {o : Opt} {c : Char} (h : o.short? = some c) :
    Opt.ofShort? c = some o := by
  cases o <;> cases h <;> rfl

theorem ne_dash_of_short? {o : Opt} {c : Char} (h : o.short? = some c) : c ≠ '-' := by
  cases o <;> cases h <;> decide

theorem ne_help {o : Opt} (h : o.takesValue = true) : o ≠ .help := by
  rintro rfl
  cases h

section Reading

variable (a : Accepted) (p : Pending) (rest : List String)

theorem readWords_short {w : String} {c : Char} {s : List Char} (hw : w.toList = '-' :: c :: s)
    (hc : c ≠ '-') :
    readWords a p (w :: rest) = readShort a p (c :: s) >>= fun r ↦ readWords r.1 r.2 rest := by
  have hd : w ≠ "--" := by
    rintro rfl
    cases hw
    exact hc rfl
  have hl : longWord? ('-' :: c :: s) = none := by
    unfold longWord?
    split
    · next he =>
      cases he
      exact absurd rfl hc
    · rfl
  simp only [readWords, if_neg hd, hw, hl]

theorem ne_dashes_of_isPositional {w : String} (h : IsPositional w) : w ≠ "--" := by
  rintro rfl
  exact h '-' [] rfl

theorem longWord?_of_isPositional {w : String} (h : IsPositional w) :
    longWord? w.toList = none := by
  unfold longWord?
  split
  · next he => exact absurd he (h _ _)
  · rfl

theorem readWords_value {w : String} (h : IsPositional w) (o : Opt) :
    readWords a (some (o, none)) (w :: rest) = readWords a (some (o, some w)) rest := by
  simp only [readWords, if_neg (ne_dashes_of_isPositional h), longWord?_of_isPositional h]
  split
  · next he => exact absurd he (h _ _)
  · next he _ =>
    cases he
    rfl
  · next hn => exact absurd rfl (hn o)

def Pending.IsReady : Pending → Prop
  | none => True
  | some (o, value) => o.takesValue = true ∧ value.isSome = true

theorem readWords_positional {w : String} (h : IsPositional w) {p : Pending} (hp : p.IsReady) :
    readWords a p (w :: rest) = .error (.unknownArgument w) := by
  simp only [readWords, if_neg (ne_dashes_of_isPositional h), longWord?_of_isPositional h]
  split
  · next he => exact absurd he (h _ _)
  · cases hp.2
  · rfl

theorem readLong_waits {o : Opt} (ho : o.takesValue = true) :
    readLong a p o.long none = p.settle a >>= fun b ↦ .ok (b, some (o, none)) := by
  simp only [readLong, ofLong?_long, ho]
  rfl

theorem readLong_switch {o : Opt} (ho : o.isSwitch = true) :
    readLong a p o.long none = p.settle a >>= fun b ↦ b.add o "" >>= fun b ↦ .ok (b, none) := by
  have ht : o.takesValue = false := by cases o <;> first | rfl | cases ho
  simp only [readLong, ofLong?_long, ht]
  rfl

variable {o : Opt} {c : Char} (hc : o.short? = some c)

include hc in
theorem readShort_cons (ho : o ≠ .help) (s : List Char) :
    readShort a p (c :: s) =
      if o.takesValue then
        match s with
        | [] => p.settle a >>= fun b ↦ .ok (b, some (o, none))
        | '=' :: value =>
          p.settle a >>= fun b ↦ b.add o (String.ofList value) >>= fun b ↦ .ok (b, none)
        | value =>
          p.settle a >>= fun b ↦ b.add o (String.ofList value) >>= fun b ↦ .ok (b, none)
      else p.settle a >>= fun b ↦ b.add o "" >>= fun b ↦ readShort b none s := by
  rw [readShort, ofShort?_of_short? hc]
  split
  · next he => cases he
  · next he =>
    cases he
    exact absurd rfl ho
  · next he =>
    cases he
    rfl

end Reading

namespace Names

variable {o : Opt} {name : String}

/-- What a name and an attached value are read as. -/
theorem readWords_name (h : Names o name) (ho : o.takesValue = true) (a : Accepted) (p : Pending)
    (rest : List String) :
    readWords a p (name :: rest) =
      p.settle a >>= fun b ↦ readWords b (some (o, none)) rest := by
  cases h with
  | long =>
    have hl : longWord? ("--" ++ o.long).toList = some (o.long, none) := by
      cases o <;> rfl
    have hw : "--" ++ o.long ≠ "--" := by
      cases o <;> decide
    rw [readWords_long a p hl hw, readLong_waits a p ho, bind_assoc]
    rfl
  | @short c hc =>
    have hw : ("-" ++ String.singleton c).toList = ['-', c] := by simp
    rw [readWords_short a p rest hw (ne_dash_of_short? hc), readShort_cons a p hc (ne_help ho),
      if_pos ho, bind_assoc]
    rfl

theorem readWords_joined (h : Names o name) (ho : o.takesValue = true) (a : Accepted)
    (p : Pending) (text : String) (rest : List String) :
    readWords a p ((name ++ "=" ++ text) :: rest) =
      p.settle a >>= fun b ↦ b.add o text >>= (readWords · none rest) := by
  cases h with
  | long => exact readWords_word a p ho text rest
  | @short c hc =>
    have hd := ne_dash_of_short? hc
    have hw : ("-" ++ String.singleton c ++ "=" ++ text).toList =
        '-' :: c :: '=' :: text.toList := by simp
    rw [readWords_short a p rest hw hd, readShort_cons a p hc (ne_help ho), if_pos ho]
    simp only [bind_assoc, String.ofList_toList]
    rfl

end Names

section

variable (a : Accepted) (p : Pending) (rest : List String)

theorem readWords_attached {o : Opt} {c : Char} {text : String} (ho : o.takesValue = true)
    (hc : o.short? = some c) (hn : text ≠ "") (he : text.toList.head? ≠ some '=') :
    readWords a p (("-" ++ String.singleton c ++ text) :: rest) =
      p.settle a >>= fun b ↦ b.add o text >>= (readWords · none rest) := by
  have hw : ("-" ++ String.singleton c ++ text).toList = '-' :: c :: text.toList := by simp
  rw [readWords_short a p rest hw (ne_dash_of_short? hc), readShort_cons a p hc (ne_help ho),
    if_pos ho]
  split
  · next ht => exact absurd (String.toList_eq_nil_iff.1 ht) hn
  · next ht => exact absurd (by rw [ht]; rfl) he
  · simp only [bind_assoc, String.ofList_toList]
    rfl

theorem readWords_switch {o : Opt} (ho : o.isSwitch = true) :
    readWords a p (("--" ++ o.long) :: rest) =
      p.settle a >>= fun b ↦ b.add o "" >>= (readWords · none rest) := by
  have hl : longWord? ("--" ++ o.long).toList = some (o.long, none) := by cases o <;> rfl
  have hw : "--" ++ o.long ≠ "--" := by cases o <;> decide
  rw [readWords_long a p hl hw, readLong_switch a p ho]
  simp only [bind_assoc]
  rfl

/-- Switches in one word are read one after the other. -/
theorem readShort_group {os : List Opt} {letters : List Char}
    (h : List.Forall₂ (fun o c ↦ o.isSwitch = true ∧ o.short? = some c) os letters) :
    readShort a none letters = a.addAll (os.map (·, "")) >>= fun b ↦ .ok (b, none) := by
  induction h generalizing a with
  | nil => rfl
  | @cons o c os letters hc _ ih =>
    obtain ⟨hs, hc⟩ := hc
    have ho : o ≠ .help := by
      rintro rfl
      cases hs
    have ht : o.takesValue = false := by cases o <;> first | rfl | cases hs
    rw [readShort_cons a none hc ho, if_neg (by simp [ht]), List.map_cons, Accepted.addAll_cons,
      bind_assoc]
    exact congrArg (a.add o "" >>= ·) (funext ih)

theorem Accepted.addAll_singleton (o : Opt) (value : String) :
    a.addAll [(o, value)] = a.add o value := by
  rw [Accepted.addAll_cons]
  exact bind_pure _

/-- The words of an option are read as the option, whatever comes after them. -/
theorem readWords_words {s : Spelling} (hs : s.IsPlain) :
    readWords a p (s.words ++ rest) =
      p.settle a >>= fun b ↦ b.addAll s.complete >>= fun b ↦ readWords b s.waiting rest := by
  cases s with
  | apart o name text ho hn ht =>
    have hw : (Spelling.apart o name text ho hn ht).words ++ rest = name :: text :: rest := rfl
    rw [hw, hn.readWords_name ho]
    exact congrArg (p.settle a >>= ·) (funext fun b ↦ readWords_value b rest ht o)
  | joined o name text ho hn =>
    simp only [Spelling.complete, Spelling.options, Accepted.addAll_singleton]
    exact hn.readWords_joined ho a p text rest
  | attached o c text ho hc ht =>
    simp only [Spelling.complete, Spelling.options, Accepted.addAll_singleton]
    exact readWords_attached a p rest ho hc ht hs
  | switch o ho =>
    simp only [Spelling.complete, Spelling.options, Accepted.addAll_singleton]
    exact readWords_switch a p rest ho
  | group os letters hne hl =>
    cases hl with
    | nil => exact absurd rfl hne
    | @cons o c os letters hc hl =>
      have hw : ("-" ++ String.ofList (c :: letters)).toList = '-' :: c :: letters := by simp
      have hg (b : Accepted) := readShort_group b (.cons hc hl)
      have ho : o ≠ .help := by
        rintro rfl
        cases hc.1
      have ht : o.takesValue = false := by
        cases o <;> first | rfl | cases hc.1
      have hp (p : Pending) (a : Accepted) := readShort_cons a p hc.2 ho letters
      simp only [ht, Bool.false_eq_true, if_false] at hp
      have hsettle : readShort a p (c :: letters) =
          p.settle a >>= (readShort · none (c :: letters)) := by
        simp only [hp]
        rfl
      have he := readWords_short a p rest hw (ne_dash_of_short? hc.2)
      rw [hsettle] at he
      simp only [hg, bind_assoc] at he
      exact he

theorem addAll_complete (s : Spelling) :
    (a.addAll s.complete >>= s.waiting.settle) = a.addAll s.options := by
  cases s with
  | apart o name text ho hn ht => exact (Accepted.addAll_singleton a o text).symm
  | _ => exact bind_pure _

theorem readWords_spelled {pieces : List Spelling} (hs : ∀ s ∈ pieces, s.IsPlain) :
    readWords a p (spelled pieces) = p.settle a >>= (·.addAll (given pieces)) := by
  induction pieces generalizing a p with
  | nil => exact (bind_pure _).symm
  | cons s pieces ih =>
    obtain ⟨hs, hp⟩ := List.forall_mem_cons.1 hs
    simp only [spelled_cons, given_cons, readWords_words a p _ hs, ih _ _ hp, Accepted.addAll_append,
      ← addAll_complete, bind_assoc]

end

theorem words_eq_append {s : Spelling} {before after : List String}
    (h : before ++ after = s.words) (hb : before ≠ []) (ha : after ≠ []) :
    ∃ o name text ho hn ht, s = .apart o name text ho hn ht ∧ before = [name] ∧
      after = [text] := by
  have hlen := congrArg List.length h
  have hb := List.length_pos_iff.2 hb
  have ha := List.length_pos_iff.2 ha
  rw [List.length_append] at hlen
  cases s with
  | apart o name text ho hn ht =>
    have hlen : before.length + after.length = 2 := hlen
    obtain ⟨w, rfl⟩ := List.length_eq_one_iff.1 (show before.length = 1 by omega)
    obtain ⟨rfl, rfl⟩ := List.cons.inj h
    exact ⟨o, w, text, ho, hn, ht, rfl, rfl, rfl⟩
  | joined | attached | switch | group =>
    have hlen : before.length + after.length = 1 := hlen
    omega

/-- A cut through a command line goes between two options, or between an option and its value. -/
theorem spelled_eq_append {pieces : List Spelling} {before after : List String}
    (h : before ++ after = spelled pieces) :
    (∃ pieces₁ pieces₂, pieces = pieces₁ ++ pieces₂ ∧ before = spelled pieces₁ ∧
      after = spelled pieces₂) ∨
    ∃ pieces₁ o name text ho hn ht pieces₂,
      pieces = pieces₁ ++ .apart o name text ho hn ht :: pieces₂ ∧
      before = spelled pieces₁ ++ [name] ∧ after = text :: spelled pieces₂ := by
  induction pieces generalizing before with
  | nil =>
    obtain ⟨rfl, rfl⟩ := List.append_eq_nil_iff.1 h
    exact .inl ⟨[], [], rfl, rfl, rfl⟩
  | cons s pieces ih =>
    rw [spelled_cons] at h
    rcases List.append_eq_append_iff.1 h with ⟨l, hl, ha⟩ | ⟨l, hl, ha⟩
    · by_cases hb : before = []
      · subst hb
        exact .inl ⟨[], s :: pieces, rfl, rfl, h⟩
      by_cases hl' : l = []
      · subst hl'
        rw [List.append_nil] at hl
        exact .inl ⟨[s], pieces, rfl, by simp [spelled, hl], ha⟩
      obtain ⟨o, name, text, ho, hn, ht, rfl, rfl, rfl⟩ := words_eq_append hl.symm hb hl'
      exact .inr ⟨[], o, name, text, ho, hn, ht, pieces, rfl, rfl, ha⟩
    · rcases ih ha.symm with ⟨pieces₁, pieces₂, rfl, rfl, rfl⟩ |
        ⟨pieces₁, o, name, text, ho, hn, ht, pieces₂, rfl, rfl, rfl⟩
      · exact .inl ⟨s :: pieces₁, pieces₂, rfl, by rw [hl, spelled_cons], rfl⟩
      · refine .inr ⟨s :: pieces₁, o, name, text, ho, hn, ht, pieces₂, rfl, ?_, rfl⟩
        rw [hl, spelled_cons, List.append_assoc]

end CommandLine

end CreditRoll
