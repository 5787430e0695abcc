import CreditRoll.Json.Reader
import CreditRoll.Proofs.Lexeme

namespace CreditRoll.Json

namespace Token

inductive Layout : List Char → List Token → Prop
  | nil {w : List Char} (hw : ∀ c ∈ w, isSpace (some c) = true) : Layout w []
  | cons {w l rest : List Char} {t : Token} {ts : List Token}
      (hw : ∀ c ∈ w, isSpace (some c) = true) (hl : Lexeme l t)
      (hn : ∀ n, t = .number n → ¬ Begins IsNumeric rest) (h : Layout rest ts) :
      Layout (w ++ l ++ rest) (t :: ts)

theorem not_isNumeric_of_isSpace {c : Char} (h : isSpace (some c) = true) : ¬ IsNumeric c := by
  simp only [isSpace, Bool.or_eq_true, beq_iff_eq] at h
  rcases h with ((rfl | rfl) | rfl) | rfl <;> simp [IsNumeric]

theorem exists_cons_of_lexeme {l : List Char} {t : Token} (h : Lexeme l t) :
    ∃ c s, l = c :: s ∧ isSpace (some c) = false := by
  cases h with
  | symbol h =>
    have hs : ∀ p ∈ symbols, p.1.head?.any (fun c ↦ !isSpace (some c)) := by decide
    have hl := hs _ h
    cases l with
    | nil => cases hl
    | cons c s => exact ⟨c, s, rfl, by simpa using hl⟩
  | number h =>
    obtain ⟨c, s, rfl, hc⟩ := exists_cons_of_isNumber h
    refine ⟨c, s, rfl, ?_⟩
    rcases hc with hc | rfl
    · exact Bool.eq_false_iff.2 fun hs ↦ not_isNumeric_of_isSpace hs (.inl hc)
    · rfl
  | string => exact ⟨_, _, rfl, rfl⟩

theorem all?_nil {s : Source} (h : s.dropWhile isSpace = []) : all? s = some [] := by
  rw [all?]
  split
  · rfl
  · next h' => simp [h] at h'

theorem all?_cons {s s' rest : Source} {c : Option Char} {t : Token}
    (h : s.dropWhile isSpace = c :: s') (ht : next? (c :: s') = some (t, rest)) :
    all? s = (t :: ·) <$> all? rest := by
  rw [all?]
  split
  · next h' => simp [h] at h'
  · next h' =>
    rw [h] at h'
    cases h'
    split
    · next h'' => simp [ht] at h''
    · next h'' =>
      rw [ht] at h''
      cases h''
      rfl

theorem all?_of_layout {text : List Char} {ts : List Token} (h : Layout text ts) :
    all? (text.map some) = some ts := by
  have hd {w : List Char} (hw : ∀ c ∈ w, isSpace (some c) = true) (s : List Char) :
      ((w ++ s).map some).dropWhile isSpace = (s.map some).dropWhile isSpace := by
    rw [List.map_append]
    exact List.dropWhile_append_of_pos (by simpa using hw)
  induction h with
  | @nil w hw => exact all?_nil (by simpa using hd hw [])
  | @cons w l rest t ts hw hl hn _ ih =>
    have ht := next?_append hl hn
    obtain ⟨c, s, rfl, hc⟩ := exists_cons_of_lexeme hl
    rw [List.append_assoc]
    refine (all?_cons (c := some c) ?_ ht).trans (by rw [ih]; rfl)
    rw [hd hw, List.cons_append, List.map_cons, List.dropWhile_cons, if_neg (by simp [hc])]
    rfl

end Token

mutual

def tokens : Json → List Token
  | .null => [.null]
  | .bool b => [.bool b]
  | .number lexeme => [.number lexeme]
  | .string s => [.string s]
  | .array [] => [.openArray, .closeArray]
  | .array (v :: vs) => .openArray :: (tokens v ++ (moreItems vs ++ [.closeArray]))
  | .object [] => [.openObject, .closeObject]
  | .object (m :: ms) =>
    .openObject :: .string m.1 :: .colon :: (tokens m.2 ++ (moreMembers ms ++ [.closeObject]))

def moreItems : List Json → List Token
  | [] => []
  | v :: vs => .comma :: (tokens v ++ moreItems vs)

def moreMembers : List (Option String × Json) → List Token
  | [] => []
  | m :: ms => .comma :: .string m.1 :: .colon :: (tokens m.2 ++ moreMembers ms)

end

/-- A text of a value, with any spaces and any spelling of its strings. -/
def IsText (text : List Char) (v : Json) : Prop := Token.Layout text v.tokens

theorem exists_cons_of_tokens (v : Json) : ∃ t ts, v.tokens = t :: ts ∧ t ≠ .closeArray := by
  rcases v with _ | _ | _ | _ | (_ | _) | (_ | _) <;>
    exact ⟨_, _, by rw [tokens], by simp⟩

theorem resume?_openArray (v : Json) (stack : List Frame) (ts : List Token) :
    resume? stack none (.openArray :: (v.tokens ++ ts)) =
      resume? (.items [] :: stack) none (v.tokens ++ ts) := by
  obtain ⟨t, ts', h, ht⟩ := exists_cons_of_tokens v
  rw [h, List.cons_append, resume?]
  rintro _ he
  cases he
  exact ht rfl

/-- The reader takes the value's tokens in any frames and goes on with what follows them. -/
def Reads (v : Json) : Prop :=
  ∀ stack ts, resume? stack none (v.tokens ++ ts) = resume? stack (some v) ts

theorem resume?_items {v : Json} {vs : List Json} (h : ∀ x ∈ v :: vs, x.Reads)
    (before : List Json) (stack : List Frame) (ts : List Token) :
    resume? (.items before :: stack) none (v.tokens ++ (moreItems vs ++ .closeArray :: ts)) =
      resume? stack (some (.array (before.reverse ++ v :: vs))) ts := by
  obtain ⟨hv, hvs⟩ := List.forall_mem_cons.1 h
  rw [hv]
  induction vs generalizing v before with
  | nil => rw [moreItems, List.nil_append, resume?, List.reverse_cons]
  | cons v' vs ih =>
    obtain ⟨hv', hs⟩ := List.forall_mem_cons.1 hvs
    have hi := ih hvs (v :: before) hv' hs
    rw [List.reverse_cons, List.append_assoc] at hi
    simp only [moreItems, List.cons_append, List.append_assoc, resume?]
    rw [hv']
    exact hi

theorem resume?_members {m : Option String × Json} {ms : List (Option String × Json)}
    (h : ∀ x ∈ m :: ms, x.2.Reads) (before : List (Option String × Json)) (stack : List Frame)
    (ts : List Token) :
    resume? (.members before m.1 :: stack) none
        (m.2.tokens ++ (moreMembers ms ++ .closeObject :: ts)) =
      resume? stack (some (.object (before.reverse ++ m :: ms))) ts := by
  obtain ⟨hm, hms⟩ := List.forall_mem_cons.1 h
  rw [hm]
  induction ms generalizing m before with
  | nil => rw [moreMembers, List.nil_append, resume?, List.reverse_cons]
  | cons m' ms ih =>
    obtain ⟨hm', hs⟩ := List.forall_mem_cons.1 hms
    have hi := ih hms (m :: before) hm' hs
    rw [List.reverse_cons, List.append_assoc] at hi
    simp only [moreMembers, List.cons_append, List.append_assoc, resume?]
    rw [hm']
    exact hi

theorem reads (v : Json) : v.Reads := by
  intro stack ts
  match v with
  | .null => simp only [tokens, List.cons_append, List.nil_append, resume?]
  | .bool b => simp only [tokens, List.cons_append, List.nil_append, resume?]
  | .number lexeme => simp only [tokens, List.cons_append, List.nil_append, resume?]
  | .string s => simp only [tokens, List.cons_append, List.nil_append, resume?]
  | .array [] => simp only [tokens, List.cons_append, List.nil_append, resume?]
  | .array (v :: vs) =>
    have hi := resume?_items (fun x (_ : x ∈ v :: vs) ↦ reads x) [] stack ts
    simpa only [tokens, List.cons_append, List.append_assoc, resume?_openArray, List.nil_append,
      List.reverse_nil] using hi
  | .object [] => simp only [tokens, List.cons_append, List.nil_append, resume?]
  | .object (m :: ms) =>
    have hm := resume?_members (fun x (_ : x ∈ m :: ms) ↦ reads x.2) [] stack ts
    simpa only [tokens, List.cons_append, List.append_assoc, resume?, List.nil_append,
      List.reverse_nil] using hm
termination_by v
decreasing_by
  · next hx =>
      have hs := List.sizeOf_lt_of_mem hx
      simp only [array.sizeOf_spec]
      omega
  · next hx =>
      have hs := List.sizeOf_lt_of_mem hx
      have hp : sizeOf x.2 < sizeOf x := by
        cases x
        simp only [Prod.mk.sizeOf_spec]
        omega
      simp only [object.sizeOf_spec]
      omega

/-- Every text of a value is read as that value. -/
theorem ofChars?_of_isText {text : List Char} {v : Json} (h : IsText text v) :
    ofChars? text = some v := by
  have hr := v.reads [] []
  rw [List.append_nil] at hr
  rw [ofChars?, ofSource?, Token.all?_of_layout h, Option.bind_eq_bind, Option.bind_some, hr,
    resume?]

end CreditRoll.Json
