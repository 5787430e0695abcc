import CreditRoll.Config.Lookup
import CreditRoll.Proofs.BlockMapping
import CreditRoll.Proofs.Precedence
import Mathlib.Data.List.Nodup

namespace CreditRoll.Config

open Settings (untagged)
open Yaml (Line Mark Node)

namespace Field

def written : (f : Field) → f.Value → String
  | .repository, s => s
  | .style, x => Choice.label x
  | .order, x => Choice.label x
  | .apiUrl, s => s

/-- The names that a setting has to be one of. Any text stands for itself where there are none. -/
def names? : Field → Option (List String)
  | .style => some ((Choice.all : List Style).map Choice.label)
  | .order => some ((Choice.all : List Order).map Choice.label)
  | .repository | .apiUrl => none

end Field

structure Item where
  field : Field
  value : field.Value
  isPrintable_value : field.names? = none →
    (field.written value).toList.all Yaml.Cell.isPrintable = true

namespace Item

theorem isPrintable_written (e : Item) :
    (e.field.written e.value).toList.all Yaml.Cell.isPrintable = true := by
  obtain ⟨f, x, h⟩ := e
  cases f with
  | repository | apiUrl => exact h rfl
  | style =>
    have hs (x : Style) : (Choice.label x).toList.all Yaml.Cell.isPrintable = true := by
      cases x <;> decide
    exact hs x
  | order =>
    have ho (x : Order) : (Choice.label x).toList.all Yaml.Cell.isPrintable = true := by
      cases x <;> decide
    exact ho x

def line (e : Item) : Line where
  key := Choice.label e.field
  value := e.field.written e.value
  key_ne := by cases e.field <;> decide
  isWord_key := by cases e.field <;> decide
  isPrintable_value := e.isPrintable_written

end Item

theorem fits_of_label {l : Line} {f : Field} (hl : l.key = Choice.label f) : l.Fits := by
  have h : (Choice.label f).length ≤ 1024 := by cases f <;> decide
  rwa [← hl] at h

section Reading

variable (m : Mark) (plain : Bool)

theorem field_label (f : Field) : field (untagged m plain (Choice.label f)) = .ok f := by
  cases f <;> rfl

theorem field_of_ne {s : String} (h : ∀ f : Field, Choice.label f ≠ s) :
    field (untagged m plain s) = .error (.unknownField s) := by
  have ho : (Choice.ofLabel? s : Option Field) = none := by
    simp [Choice.ofLabel?, h]
  have ht : text .field (untagged m plain s) = .ok s := rfl
  rw [field, ht]
  simp only [bind, Except.bind, ho]

theorem read_written (f : Field) (x : f.Value) :
    read (untagged m plain (f.written x)) f = .ok x := by
  cases f with
  | repository | apiUrl => rfl
  | style | order => cases x <;> rfl

theorem choice_untagged {α : Type} [Choice α] (s : String) :
    (choice (untagged m plain s) : Except Cause α) = named s :=
  rfl

theorem choice_of_not_mem {α : Type} [Choice α] {s : String}
    (hs : s ∉ (Choice.all : List α).map Choice.label) :
    (choice (untagged m plain s) : Except Cause α) =
      .error (.unknownChoice s ((Choice.all : List α).map Choice.label)) := by
  have ho : (Choice.ofLabel? s : Option α) = none := by
    simpa [Choice.ofLabel?] using hs
  rw [choice_untagged, named, ho]

theorem read_untagged (m' : Mark) (f : Field) (s : String) :
    read (untagged m plain s) f = read (untagged m' plain s) f := by
  cases f <;> rfl

theorem label_of_choice {α : Type} [Choice α] {s : String} {x : α}
    (h : choice (untagged m plain s) = .ok x) : Choice.label x = s := by
  rw [choice_untagged, named] at h
  split at h
  · next a ha =>
    cases h
    simpa using List.find?_some ha
  · cases h

theorem written_of_read {f : Field} {s : String} {x : f.Value}
    (h : read (untagged m plain s) f = .ok x) : f.written x = s := by
  cases f with
  | repository | apiUrl =>
    cases h
    rfl
  | style | order => exact label_of_choice m plain h

theorem read_of_not_mem {f : Field} {names : List String} (hn : names ∈ f.names?) {s : String}
    (hs : s ∉ names) : read (untagged m plain s) f = .error (.unknownChoice s names) := by
  cases f with
  | repository | apiUrl => cases hn
  | style | order =>
    cases hn
    exact choice_of_not_mem m plain hs

end Reading

def putAll (c : Config) (items : List Item) : Config :=
  items.foldl (fun c e ↦ c.put e.field e.value) c

theorem get_putAll_of_not_mem {items : List Item} {f : Field}
    (h : f ∉ items.map Item.field) (c : Config) : (putAll c items).get f = c.get f := by
  induction items generalizing c with
  | nil => rfl
  | cons e items ih =>
    rw [List.map_cons, List.mem_cons, not_or] at h
    rw [← get_put_of_ne c h.1 e.value]
    exact ih h.2 _

theorem get_putAll_of_mem {items : List Item} (hd : (items.map Item.field).Nodup)
    {e : Item} (he : e ∈ items) (c : Config) :
    (putAll c items).get e.field = e.value := by
  induction items generalizing c with
  | nil => cases he
  | cons e' items ih =>
    obtain ⟨hne, hd⟩ := List.nodup_cons.1 hd
    obtain rfl | he := List.mem_cons.1 he
    · exact (get_putAll_of_not_mem hne _).trans (get_put_self c e.field e.value)
    · exact ih hd he _

theorem eq_of_get {c c' : Config} (h : ∀ f, c.get f = c'.get f) : c = c' := by
  obtain ⟨hr, hs, ho, hu⟩ := Field.forall_field.1 h
  cases c
  cases c'
  cases hr
  cases hs
  cases ho
  cases hu
  rfl

/-- No setting is put in twice, so that the order does not matter. -/
theorem putAll_perm {items items' : List Item} (hp : items'.Perm items)
    (hd : (items.map Item.field).Nodup) (c : Config) :
    putAll c items' = putAll c items := by
  have hf := hp.map Item.field
  refine eq_of_get fun f ↦ ?_
  by_cases h : f ∈ items.map Item.field
  · obtain ⟨e, he, rfl⟩ := List.mem_map.1 h
    rw [get_putAll_of_mem hd he, get_putAll_of_mem (hf.nodup_iff.2 hd) (hp.mem_iff.2 he)]
  · rw [get_putAll_of_not_mem h, get_putAll_of_not_mem (mt hf.mem_iff.1 h)]

section Pairs

variable {start : Mark} {given : List Field} {c : Config} {l : Line} {f : Field}

/-- All that one pair of scalars can do. -/
theorem ofPairs_scalars (k v : Yaml.Head) (pairs : List (Node × Node)) :
    ofPairs start given c ((.scalar k, .scalar v) :: pairs) =
      match field k with
      | .error cause => .error ⟨.outside, cause, k.mark⟩
      | .ok f =>
        if f ∈ given then .error ⟨.outside, .repeatedField f, start⟩
        else
          match read v f with
          | .error cause => .error ⟨.value f, cause, v.mark⟩
          | .ok x => ofPairs start (f :: given) (c.put f x) pairs := by
  rw [ofPairs]
  simp only [Node.head]
  cases field k with
  | error cause => rfl
  | ok f =>
    by_cases hg : f ∈ given
    · have hc : given.contains f = true := by simpa using hg
      change (if given.contains f = true then _ else _) = _
      rw [if_pos hc]
      exact (if_pos hg).symm
    · have hc : ¬ given.contains f = true := by simpa using hg
      change (if given.contains f = true then _ else _) = _
      rw [if_neg hc, set_eq]
      simp only [if_neg hg]
      cases read v f <;> rfl

variable (m : Mark) (pairs : List (Node × Node))

theorem ofPairs_unknown (hl : ∀ f : Field, Choice.label f ≠ l.key) :
    ofPairs start given c (l.pair m :: pairs) = .error ⟨.outside, .unknownField l.key, m⟩ := by
  have hk := field_of_ne m true hl
  rw [untagged] at hk
  rw [Line.pair, ofPairs_scalars, hk]

theorem ofPairs_repeated (hl : l.key = Choice.label f) (hg : f ∈ given) :
    ofPairs start given c (l.pair m :: pairs) = .error ⟨.outside, .repeatedField f, start⟩ := by
  have hk := field_label m true f
  rw [untagged, ← hl] at hk
  rw [Line.pair, ofPairs_scalars, hk]
  exact if_pos hg

variable (start c) in
theorem ofPairs_line (hl : l.key = Choice.label f) (hg : f ∉ given) :
    ∃ m', ofPairs start given c (l.pair m :: pairs) =
      match read (untagged m' false l.value) f with
      | .error cause => .error ⟨.value f, cause, m'⟩
      | .ok x => ofPairs start (f :: given) (c.put f x) pairs := by
  have hk := field_label m true f
  rw [untagged, ← hl] at hk
  refine ⟨m.along (l.key.length + 2), ?_⟩
  rw [Line.pair, ofPairs_scalars, hk]
  exact if_neg hg

end Pairs

theorem ofPairs_items {start : Mark} {given : List Field} {items : List Item}
    (hd : (items.map Item.field).Nodup) (hg : ∀ e ∈ items, e.field ∉ given) (c : Config)
    (m : Mark) (pairs : List (Node × Node)) :
    ofPairs start given c
        ((Line.placed m (items.map Item.line)).map (fun p ↦ p.2.pair p.1) ++ pairs) =
      ofPairs start ((items.map Item.field).reverse ++ given) (putAll c items) pairs := by
  induction items generalizing given c m with
  | nil => rfl
  | cons e items ih =>
    obtain ⟨hne, hd⟩ := List.nodup_cons.1 hd
    obtain ⟨he, hg⟩ := List.forall_mem_cons.1 hg
    have hg' : ∀ e' ∈ items, e'.field ∉ e.field :: given := by
      intro e' he' hm
      obtain hm | hm := List.mem_cons.1 hm
      · exact hne (hm ▸ List.mem_map_of_mem he')
      · exact hg e' he' hm
    have hr (m : Mark) : read (untagged m false e.line.value) e.field = .ok e.value :=
      read_written m false e.field e.value
    rw [List.map_cons, Line.placed, List.map_cons, List.cons_append]
    obtain ⟨m', hm⟩ := ofPairs_line start c m _ (l := e.line) rfl he
    rw [hm, hr, List.map_cons, List.reverse_cons, List.append_assoc]
    exact ih hd hg' (c.put e.field e.value) _

theorem exists_placed_append (m : Mark) (lines lines' : List Line) :
    ∃ m', Line.placed m (lines ++ lines') = Line.placed m lines ++ Line.placed m' lines' := by
  induction lines generalizing m with
  | nil => exact ⟨m, rfl⟩
  | cons l lines ih =>
    obtain ⟨m', hm⟩ := ih ((m.along l.text.length).nextLine 1)
    exact ⟨m', congrArg ((m, l) :: ·) hm⟩

section Parsing

variable (path : String) (ended : Bool) {lines : List Line}

theorem ofText?_document (l : Line) (lines : List Line) :
    ofText? (Line.document ended (l :: lines)) =
      (Node.ofText? (Line.document ended (l :: lines))).map fun
        | none => .ok {}
        | some node => ofNode node := by
  have hb : ¬ (Line.document ended (l :: lines)).all Text.isBlank = true := by
    rw [List.all_eq_true]
    intro h
    have hc : ':' ∈ Line.document ended (l :: lines) := by
      simp [Line.document_cons, Line.text]
    exact absurd (h ':' hc) (by decide)
  exact if_neg hb

theorem parse_document (hf : ∀ l ∈ lines, l.Fits) :
    parse path (Line.document ended lines) =
      (ofPairs .start [] {} ((Line.placed .start lines).map fun p ↦ p.2.pair p.1)).mapError
        (.wrong path) := by
  cases lines with
  | nil => cases ended <;> rfl
  | cons l lines =>
    rw [parse, ofText?_document, Node.ofText?_document ended hf]
    rfl

theorem parse_document_long (h : ¬ ∀ l ∈ lines, l.Fits) :
    parse path (Line.document ended lines) = .error (.malformed path) := by
  cases lines with
  | nil => exact absurd (List.forall_mem_nil _) h
  | cons l lines =>
    rw [parse, ofText?_document, Node.ofText?_document_long ended h]
    rfl

theorem fits_items (items : List Item) : ∀ l ∈ items.map Item.line, l.Fits := by
  intro l hl
  obtain ⟨e, -, rfl⟩ := List.mem_map.1 hl
  exact fits_of_label rfl

/-- What becomes of a config file that begins with settings all of which are fine. -/
theorem parse_items_append {items : List Item} (hd : (items.map Item.field).Nodup)
    (hf : ∀ l ∈ lines, l.Fits) :
    ∃ m, parse path (Line.document ended (items.map Item.line ++ lines)) =
      (ofPairs .start (items.map Item.field).reverse (putAll {} items)
        ((Line.placed m lines).map fun p ↦ p.2.pair p.1)).mapError (.wrong path) := by
  obtain ⟨m, hm⟩ := exists_placed_append .start (items.map Item.line) lines
  have hall : ∀ l ∈ items.map Item.line ++ lines, l.Fits :=
    List.forall_mem_append.2 ⟨fits_items items, hf⟩
  refine ⟨m, ?_⟩
  rw [parse_document path ended hall, hm, List.map_append,
    ofPairs_items hd (fun _ _ ↦ List.not_mem_nil), List.append_nil]

theorem parse_items {items : List Item} (hd : (items.map Item.field).Nodup) :
    parse path (Line.document ended (items.map Item.line)) = .ok (putAll {} items) := by
  obtain ⟨m, hm⟩ := parse_items_append path ended hd (List.forall_mem_nil _)
  rw [List.append_nil] at hm
  exact hm

variable {before : List Item} (after : List Item) {l : Line}

theorem parse_unknown (hd : (before.map Item.field).Nodup)
    (hl : ∀ f : Field, Choice.label f ≠ l.key) (hf : l.Fits) :
    ∃ m, parse path (Line.document ended (before.map Item.line ++ l :: after.map Item.line)) =
      .error (.wrong path ⟨.outside, .unknownField l.key, m⟩) := by
  obtain ⟨m, hm⟩ := parse_items_append path ended hd
    (List.forall_mem_cons.2 ⟨hf, fits_items after⟩)
  refine ⟨m, ?_⟩
  rw [hm, Line.placed, List.map_cons, ofPairs_unknown m _ hl]
  rfl

theorem parse_unreadable (hd : (before.map Item.field).Nodup) {f : Field}
    (hg : f ∉ before.map Item.field) (hl : l.key = Choice.label f) {cause : Cause}
    (hr : ∀ m, read (untagged m false l.value) f = .error cause) :
    ∃ m, parse path (Line.document ended (before.map Item.line ++ l :: after.map Item.line)) =
      .error (.wrong path ⟨.value f, cause, m⟩) := by
  obtain ⟨m, hm⟩ := parse_items_append path ended hd
    (List.forall_mem_cons.2 ⟨fits_of_label hl, fits_items after⟩)
  obtain ⟨m', hm'⟩ := ofPairs_line .start (putAll {} before) m
    ((Line.placed _ (after.map Item.line)).map fun p ↦ p.2.pair p.1) hl
    (List.mem_reverse.not.2 hg)
  refine ⟨m', ?_⟩
  rw [hm, Line.placed, List.map_cons, hm', hr]
  rfl

theorem parse_repeated (hd : (before.map Item.field).Nodup) {f : Field}
    (hg : f ∈ before.map Item.field) (hl : l.key = Choice.label f) :
    parse path (Line.document ended (before.map Item.line ++ l :: after.map Item.line)) =
      .error (.wrong path ⟨.outside, .repeatedField f, .start⟩) := by
  obtain ⟨m, hm⟩ := parse_items_append path ended hd
    (List.forall_mem_cons.2 ⟨fits_of_label hl, fits_items after⟩)
  rw [hm, Line.placed, List.map_cons, ofPairs_repeated m _ hl (List.mem_reverse.2 hg)]
  rfl

/-- A line with a value that its setting has is the line of an item. -/
theorem exists_item {f : Field} (hl : l.key = Choice.label f) {m : Mark} {x : f.Value}
    (hx : read (untagged m false l.value) f = .ok x) :
    ∃ e : Item, e.field = f ∧ e.line = l := by
  have hw := written_of_read m false hx
  refine ⟨⟨f, x, fun _ ↦ hw ▸ l.isPrintable_value⟩, rfl, ?_⟩
  cases l
  cases hl
  cases hw
  rfl

/-- Of two lines for a setting, wherever they stand, one is at fault. -/
theorem parse_twice (hd : ((before ++ after).map Item.field).Nodup) {f : Field}
    (hg : f ∈ (before ++ after).map Item.field) (hl : l.key = Choice.label f) :
    ∃ fault,
      parse path (Line.document ended (before.map Item.line ++ l :: after.map Item.line)) =
        .error (.wrong path fault) ∧
      (fault.cause = .repeatedField f ∨ fault.place = .value f) := by
  rw [List.map_append] at hd hg
  have hdb : (before.map Item.field).Nodup := (List.nodup_append.1 hd).1
  by_cases hb : f ∈ before.map Item.field
  · exact ⟨_, parse_repeated path ended after hdb hb hl, .inl rfl⟩
  have ha : f ∈ after.map Item.field := (List.mem_append.1 hg).resolve_left hb
  cases hr : read (untagged .start false l.value) f with
  | error cause =>
    obtain ⟨m, hm⟩ := parse_unreadable path ended after hdb hb hl fun m ↦
      (read_untagged m false .start f l.value).trans hr
    exact ⟨_, hm, .inr rfl⟩
  | ok x =>
    obtain ⟨e, rfl, rfl⟩ := exists_item hl hr
    obtain ⟨e', he', hf⟩ := List.mem_map.1 ha
    obtain ⟨between, later, rfl⟩ := List.append_of_mem he'
    rw [List.map_append, List.map_cons, ← List.append_assoc, List.nodup_middle, hf] at hd
    have hn : ((before ++ e :: between).map Item.field).Nodup := by
      rw [List.map_append, List.map_cons, List.nodup_middle]
      exact hd.sublist ((List.sublist_append_left _ _).cons_cons _)
    have hr := parse_repeated path ended later hn (l := e'.line) (f := e.field) (by simp)
      (congrArg Choice.label hf)
    refine ⟨⟨.outside, .repeatedField e.field, .start⟩, ?_, .inl rfl⟩
    rw [← hr]
    simp

/-- The settings of a config file may stand in any order, and what has no line has its usual value.
One line more for no setting or for one that has a line, or one value that is not among the names of
its setting, spoils the whole file wherever it stands. -/
theorem parse_written {items : List Item} (hd : (items.map Item.field).Nodup) :
    (∃ c, (∀ items' : List Item, items'.Perm items → ∀ ended,
        parse path (Line.document ended (items'.map Item.line)) = .ok c) ∧
      (∀ e ∈ items, c.get e.field = e.value) ∧
      ∀ f, f ∉ items.map Item.field → c.get f = ({} : Config).get f) ∧
    (∀ before after : List Item, before ++ after = items → ∀ (l : Line) (ended : Bool),
      let r := parse path (Line.document ended (before.map Item.line ++ l :: after.map Item.line))
      ((∀ f : Field, Choice.label f ≠ l.key) →
        (l.Fits → ∃ m, r = .error (.wrong path ⟨.outside, .unknownField l.key, m⟩)) ∧
        (¬ l.Fits → r = .error (.malformed path))) ∧
      ∀ f ∈ items.map Item.field, l.key = Choice.label f → ∃ fault,
        r = .error (.wrong path fault) ∧
        (fault.cause = .repeatedField f ∨ fault.place = .value f)) ∧
    ∀ (before : List Item) (e : Item) (after : List Item), before ++ e :: after = items →
      ∀ names ∈ e.field.names?, ∀ (l : Line) (ended : Bool), l.key = Choice.label e.field →
        l.value ∉ names → ∃ m,
        parse path (Line.document ended (before.map Item.line ++ l :: after.map Item.line)) =
          .error (.wrong path ⟨.value e.field, .unknownChoice l.value names, m⟩) := by
  refine ⟨⟨putAll {} items, ?_, fun e he ↦ get_putAll_of_mem hd he _,
    fun f hf ↦ get_putAll_of_not_mem hf _⟩, ?_, ?_⟩
  · intro items' hp ended
    have hd' : (items'.map Item.field).Nodup := (hp.map Item.field).nodup_iff.2 hd
    rw [parse_items path ended hd', putAll_perm hp hd]
  · rintro before after rfl l ended
    have hdb : (before.map Item.field).Nodup := by
      rw [List.map_append] at hd
      exact (List.nodup_append.1 hd).1
    refine ⟨fun hl ↦ ⟨parse_unknown path ended after hdb hl, fun hf ↦ ?_⟩, ?_⟩
    · apply parse_document_long
      intro h
      exact hf (h l (by simp))
    · intro f hg hl
      exact parse_twice path ended after hd hg hl
  · rintro before e after rfl names hn l ended hl hv
    rw [List.map_append, List.map_cons, List.nodup_middle, List.nodup_cons, List.mem_append,
      not_or] at hd
    obtain ⟨⟨hb, -⟩, hd⟩ := hd
    exact parse_unreadable path ended after (List.nodup_append.1 hd).1 hb hl fun m ↦
      read_of_not_mem m false hn hv

end Parsing

theorem parse_written_misspelt :
    let order : Item := ⟨.order, .byName, nofun⟩
    let repository : Item := ⟨.repository, "o'r", fun _ ↦ by decide⟩
    ([order, repository].map Item.field).Nodup ∧
      (∃ c, parse "c.yml" "repo: 'o''r'\norder: 'name'\n".toList = .ok c ∧
        c.get .repository = "o'r" ∧ c.get .style = .link) ∧
      ∃ m, parse "c.yml" "order: 'name'\nformt: 'plain'\nrepo: 'o''r'".toList =
        .error (.wrong "c.yml" ⟨.outside, .unknownField "formt", m⟩) := by
  intro order repository
  let misspelt : Line := ⟨"formt", "plain", by decide, by decide, by decide⟩
  have hd : ([order, repository].map Item.field).Nodup := by decide
  obtain ⟨⟨c, hp, hv, hu⟩, hx, -⟩ := parse_written "c.yml" hd
  have hw : Line.document true ([repository, order].map Item.line) =
    "repo: 'o''r'\norder: 'name'\n".toList := by decide
  have hm : Line.document false ([order].map Item.line ++ misspelt :: [repository].map Item.line) =
    "order: 'name'\nformt: 'plain'\nrepo: 'o''r'".toList := by decide
  refine ⟨hd, ⟨c, ?_, hv repository (by simp), hu .style (by decide)⟩, ?_⟩
  · rw [← hw]
    exact hp _ (List.Perm.swap _ _ _) true
  · rw [← hm]
    refine ((hx [order] [repository] rfl misspelt false).1 ?_).1 ?_
    · intro f
      cases f <;> decide
    · exact (by decide : "formt".length ≤ 1024)

end CreditRoll.Config
