import CreditRoll.Proofs.Blanks
import CreditRoll.Proofs.JsonReading
import CreditRoll.Proofs.WireFields

namespace CreditRoll

namespace Json

namespace Token

def Ends (p : Char → Prop) (text : List Char) : Prop := ∃ s c, text = s ++ [c] ∧ p c

theorem Ends.append {p : Char → Prop} {text : List Char} (h : Ends p text) (s : List Char) :
    Ends p (s ++ text) := by
  obtain ⟨s', c, rfl, hc⟩ := h
  exact ⟨s ++ s', c, (List.append_assoc _ _ _).symm, hc⟩

theorem Ends.mono {p q : Char → Prop} {text : List Char} (h : Ends p text)
    (hpq : ∀ c, p c → q c) : Ends q text := by
  obtain ⟨s, c, rfl, hc⟩ := h
  exact ⟨s, c, rfl, hpq c hc⟩

theorem ends_of_isDigits {s : List Char} (h : IsDigits s) : Ends (·.isDigit = true) s := by
  rcases List.eq_nil_or_concat' s with rfl | ⟨s, c, rfl⟩
  · exact absurd rfl h.1
  · exact ⟨s, c, rfl, h.2 c (by simp)⟩

theorem ends_of_isNumber {l : List Char} (h : IsNumber l) : Ends (·.isDigit = true) l := by
  have hu {w f x : List Char} (hw : IsWhole w) (hf : IsFraction f) (hx : IsExponent x) :
      Ends (·.isDigit = true) (w ++ f ++ x) := by
    cases hx with
    | @digits e sign s _ _ hs => exact ((ends_of_isDigits hs).append (e :: sign)).append _
    | absent =>
      rw [List.append_nil]
      cases hf with
      | @digits s hs => exact ((ends_of_isDigits hs).append ['.']).append w
      | absent =>
        rw [List.append_nil]
        cases hw with
        | zero => exact ⟨[], '0', rfl, rfl⟩
        | digits _ hs => exact ends_of_isDigits hs
  cases h with
  | plain hw hf hx => exact hu hw hf hx
  | minus hw hf hx => exact (hu hw hf hx).append ['-']

/-- The spaces between two tokens belong to neither of them. -/
theorem ends_of_lexeme {l : List Char} {t : Token} (h : Lexeme l t) :
    Ends (isSpaceChar · = false) l := by
  cases h with
  | symbol h =>
    have hs : ∀ p ∈ symbols, p.1.getLast?.any (!isSpaceChar ·) := by decide
    obtain ⟨c, hc, hl⟩ := (Option.any_eq_true _ _).1 (hs _ h)
    obtain ⟨s, rfl⟩ := List.getLast?_eq_some_iff.1 hc
    rw [Bool.not_eq_true'] at hl
    exact ⟨s, c, rfl, hl⟩
  | number h =>
    refine (ends_of_isNumber h).mono fun c hc ↦ ?_
    exact Bool.eq_false_iff.2 fun hs ↦ not_isNumeric_of_isSpace hs (.inl hc)
  | @string text => exact ⟨'"' :: text, '"', rfl, rfl⟩

theorem not_begins_of_append {p : Char → Prop} {text w : List Char} (h : ¬ Begins p (text ++ w)) :
    ¬ Begins p text := by
  rintro ⟨c, hc, hp⟩
  refine h ⟨c, ?_, hp⟩
  rw [List.head?_append, hc]
  rfl

namespace Layout

variable {text w w' : List Char} {ts : List Token}

theorem append_spaces (h : Layout text ts) (hw' : ∀ c ∈ w', isSpaceChar c = true) :
    Layout (text ++ w') ts := by
  induction h with
  | nil hw => exact .nil (List.forall_mem_append.2 ⟨hw, hw'⟩)
  | @cons w l rest t ts hw hl hn _ ih =>
    rw [List.append_assoc]
    refine .cons hw hl (fun n hnum ↦ ?_) ih
    rintro ⟨c, hc, hp⟩
    cases rest with
    | nil => exact not_isNumeric_of_isSpace (hw' c (List.mem_of_mem_head? hc)) hp
    | cons c' rest => exact hn n hnum ⟨c, hc, hp⟩

theorem prepend_spaces (h : Layout text ts) (hw : ∀ c ∈ w, isSpaceChar c = true) :
    Layout (w ++ text) ts := by
  cases h with
  | nil hw' => exact .nil (List.forall_mem_append.2 ⟨hw, hw'⟩)
  | cons hw' hl hn h =>
    rw [← List.append_assoc, ← List.append_assoc]
    exact .cons (List.forall_mem_append.2 ⟨hw, hw'⟩) hl hn h

theorem of_append_spaces (h : Layout (text ++ w') ts) (hw' : ∀ c ∈ w', isSpaceChar c = true) :
    Layout text ts := by
  generalize hs : text ++ w' = s at h
  induction h generalizing text with
  | nil hw =>
    rw [← hs] at hw
    exact .nil (List.forall_mem_append.1 hw).1
  | @cons w l rest t ts hw hl hn _ ih =>
    rcases List.append_eq_append_iff.1 hs with ⟨s, hwl, hs'⟩ | ⟨s, rfl, rfl⟩
    · rcases List.eq_nil_or_concat' s with rfl | ⟨s, c, rfl⟩
      · rw [List.append_nil] at hwl
        rw [List.nil_append] at hs'
        have hr : Layout [] ts := ih hs'
        have hc := Layout.cons hw hl (fun n _ ⟨c, hc, _⟩ ↦ by cases hc) hr
        rwa [List.append_nil, hwl] at hc
      · obtain ⟨s', c', hl', hc'⟩ := (ends_of_lexeme hl).append w
        rw [hwl, ← List.append_assoc] at hl'
        cases (List.append_inj' hl' rfl).2
        have hc : isSpaceChar c = true := hw' c (by simp [hs'])
        rw [hc] at hc'
        cases hc'
    · have hr : Layout s ts := ih rfl
      exact .cons hw hl (fun n hnum ↦ not_begins_of_append (hn n hnum)) hr

theorem of_prepend_spaces (h : Layout (w ++ text) ts) (hw : ∀ c ∈ w, isSpaceChar c = true) :
    Layout text ts := by
  generalize hs : w ++ text = s at h
  cases h with
  | nil hw' =>
    rw [← hs] at hw'
    exact .nil (List.forall_mem_append.1 hw').2
  | @cons w' l rest t ts hw' hl hn h =>
    rw [List.append_assoc] at hs
    rcases List.append_eq_append_iff.1 hs with ⟨s, rfl, rfl⟩ | ⟨s, rfl, hs'⟩
    · rw [← List.append_assoc]
      exact .cons (List.forall_mem_append.1 hw').2 hl hn h
    · cases s with
      | nil =>
        rw [List.nil_append] at hs'
        rw [← hs']
        exact .cons (w := []) (fun _ ↦ by simp) hl hn h
      | cons c s =>
        obtain ⟨c', l, rfl, hc⟩ := exists_cons_of_lexeme hl
        obtain rfl : c' = c := (List.cons.inj hs').1
        have hc' : isSpaceChar c' = true := hw c' (by simp)
        rw [isSpaceChar, hc] at hc'
        cases hc'

end Layout

end Token

theorem isText_padded_iff {text w w' : List Char} (hw : ∀ c ∈ w, Token.isSpaceChar c = true)
    (hw' : ∀ c ∈ w', Token.isSpaceChar c = true) {v : Json} :
    IsText (w ++ text ++ w') v ↔ IsText text v := by
  constructor
  · intro h
    exact (h.of_append_spaces hw').of_prepend_spaces hw
  · intro h
    exact (h.prepend_spaces hw).append_spaces hw'

theorem exists_named {ms : List (Option String × Json)} (h : hasTextNames ms = true) :
    ∃ members, ms = named members := by
  induction ms with
  | nil => exact ⟨[], rfl⟩
  | cons m ms ih =>
    rw [hasTextNames, List.all_cons, Bool.and_eq_true] at h
    obtain ⟨name, hname⟩ := Option.isSome_iff_exists.1 h.1
    obtain ⟨members, rfl⟩ := ih h.2
    have hm : m = (some name, m.2) := Prod.ext hname rfl
    exact ⟨(name, m.2) :: members, congrArg (· :: named members) hm⟩

end Json

namespace Github.Wire

open Json (IsText Once)

/-- A body with an explanation in it: an object with just one member for it, or an array that holds
nothing else. -/
inductive Explains (body : String) : String → Prop
  | object {message : String} {members : List (String × Json)}
      (h : IsText body.toList (.ofMembers members))
      (ho : Once "message" (.ofText message) members) : Explains body message
  | array {message : String} (h : IsText body.toList (.array [.ofText message])) :
      Explains body message

theorem explanation?_object {members : List (String × Json)} :
    explanation? (.ofMembers members) =
      Json.required? "message" Json.text? (Json.named members) := by
  have hm : Json.ofMembers members = .object (Json.named members) := rfl
  rw [hm, explanation?, Json.hasTextNames_named]
  rfl

/-- An explanation is read from a body if and only if it is in it. -/
theorem explains_iff {body message : String} :
    Json.ofChars? body.toList >>= explanation? = some message ↔ Explains body message := by
  rw [Option.bind_eq_bind, Option.bind_eq_some_iff]
  simp only [Json.ofChars?_eq_some_iff]
  constructor
  · rintro ⟨v, hv, h⟩
    unfold explanation? at h
    split at h
    · next ms =>
      simp only [Option.bind_eq_bind, Option.bind_eq_some_iff, Option.guard_eq_some'] at h
      obtain ⟨-, hn, h⟩ := h
      obtain ⟨members, rfl⟩ := Json.exists_named hn
      exact .object hv (Json.required?_text.1 h)
    · next v =>
      obtain rfl := Json.text?_eq_some_iff.1 h
      exact .array hv
    · cases h
  · intro h
    cases h with
    | object h ho => exact ⟨_, h, explanation?_object.trans (Json.required?_text.2 ho)⟩
    | array h => exact ⟨_, h, rfl⟩

/-- An error body is taken for its explanation, word for word, or else for its whole text without
the blanks around it. Spaces around the body change neither. -/
theorem errorMessage_reads :
    (∀ body message, Explains body message → errorMessage body = message) ∧
    (∀ body, (∀ message, ¬ Explains body message) → errorMessage body = body.trimBlank) ∧
    ∀ w body w' : String, (∀ c ∈ w.toList ++ w'.toList, c ∈ [' ', '\t', '\n', '\r']) →
      errorMessage (w ++ body ++ w') = errorMessage body := by
  refine ⟨fun body message h ↦ ?_, fun body h ↦ ?_, fun w body w' hw ↦ ?_⟩
  · rw [errorMessage, explains_iff.2 h, Option.getD_some]
  · have hn : Json.ofChars? body.toList >>= explanation? = none :=
      Option.eq_none_iff_forall_ne_some.2 fun message hm ↦ h message (explains_iff.1 hm)
    rw [errorMessage, hn, Option.getD_none]
  · have hspace : ∀ c ∈ w.toList ++ w'.toList, Json.Token.isSpaceChar c = true := by
      have hall : [' ', '\t', '\n', '\r'].all Json.Token.isSpaceChar = true := by decide
      exact fun c hc ↦ List.all_eq_true.1 hall c (hw c hc)
    have hblank : ∀ c ∈ w.toList ++ w'.toList, Text.isBlank c = true := by
      have hall : [' ', '\t', '\n', '\r'].all Text.isBlank = true := by decide
      exact fun c hc ↦ List.all_eq_true.1 hall c (hw c hc)
    obtain ⟨hs, hs'⟩ := List.forall_mem_append.1 hspace
    obtain ⟨hb, hb'⟩ := List.forall_mem_append.1 hblank
    have ht : (w ++ body ++ w').toList = w.toList ++ body.toList ++ w'.toList := by
      rw [String.toList_append, String.toList_append]
    have hr : Json.ofChars? (w ++ body ++ w').toList = Json.ofChars? body.toList := by
      apply Option.ext
      intro v
      rw [ht, Json.ofChars?_eq_some_iff, Json.ofChars?_eq_some_iff, Json.isText_padded_iff hs hs']
    have hm : (w ++ body ++ w').trimBlank = body.trimBlank := by
      rw [String.trimBlank, ht, Text.trim, Text.strip_append hb hb']
      rfl
    rw [errorMessage, errorMessage, hr, hm]

/-- An explanation keeps its blanks and a body that is no JSON text loses them. -/
theorem errorMessage_reads_padded :
    let members := [("documentation_url", Json.null), ("message", .ofText " Not Found\n")]
    let body := String.ofList (Json.write (.ofMembers members))
    errorMessage body = " Not Found\n" ∧ errorMessage ("\n" ++ body ++ "\t ") = " Not Found\n" ∧
      errorMessage "\u00A0 upstream timeout \n" = "upstream timeout" := by
  intro members body
  have hproper : (Json.ofMembers members).Proper :=
    Json.proper_ofMembers (List.forall_mem_cons.2 ⟨.null, List.forall_mem_singleton.2 .string⟩)
  have hbody : Explains body " Not Found\n" := by
    have ht : IsText body.toList (.ofMembers members) := by
      rw [String.toList_ofList]
      exact Json.isText_write hproper
    exact .object ht ⟨by simp [members], by decide⟩
  obtain ⟨hread, hraw, hpad⟩ := errorMessage_reads
  have hm := hread body _ hbody
  refine ⟨hm, (hpad "\n" body "\t " (by simp)).trans hm, ?_⟩
  have hn : Json.ofChars? "\u00A0 upstream timeout \n".toList = none := by
    rw [← Option.isNone_iff_eq_none]
    decide +kernel
  refine (hraw _ fun message h ↦ ?_).trans (by decide +kernel)
  have he := explains_iff.2 h
  rw [hn] at he
  cases he

end Github.Wire

end CreditRoll
