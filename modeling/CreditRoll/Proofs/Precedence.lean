import CreditRoll.Config.Decode
import CreditRoll.Proofs.CommandLine
import CreditRoll.Settings

namespace CreditRoll

namespace Config

open Yaml (Head Node)

namespace Field

abbrev Value : Field → Type
  | repository | apiUrl => String
  | style => Style
  | order => Order

abbrev Setting : Field → Type
  | repository => Repository
  | style => Style
  | order => Order
  | apiUrl => String

def option : Field → CommandLine.Opt
  | repository => .repo
  | style => .format
  | order => .order
  | apiUrl => .apiUrl

theorem forall_field {P : Field → Prop} :
    (∀ f, P f) ↔ P .repository ∧ P .style ∧ P .order ∧ P .apiUrl := by
  constructor
  · exact fun h ↦ ⟨h _, h _, h _, h _⟩
  · rintro ⟨hr, hs, ho, hu⟩ f
    cases f
    · exact hr
    · exact hs
    · exact ho
    · exact hu

end Field

def get (c : Config) : (f : Field) → f.Value
  | .repository => c.repository
  | .style => c.style
  | .order => c.order
  | .apiUrl => c.apiUrl

def put (c : Config) : (f : Field) → f.Value → Config
  | .repository, s => { c with repository := s }
  | .style, s => { c with style := s }
  | .order, o => { c with order := o }
  | .apiUrl, s => { c with apiUrl := s }

def read (h : Head) : (f : Field) → Except Cause f.Value
  | .repository => text .text h
  | .style => choice h
  | .order => choice h
  | .apiUrl => text .text h

theorem get_put_self (c : Config) (f : Field) (x : f.Value) : (c.put f x).get f = x := by
  cases f <;> rfl

theorem get_put_of_ne (c : Config) {f g : Field} (h : g ≠ f) (x : f.Value) :
    (c.put f x).get g = c.get g := by
  cases f <;> cases g <;> first | rfl | exact absurd rfl h

theorem set_eq (c : Config) (f : Field) (h : Head) : set c f h = (read h f).map (c.put f) := by
  cases f with
  | repository | apiUrl =>
    simp only [set, read]
    cases text .text h <;> rfl
  | style =>
    simp only [set, read]
    cases (choice h : Except Cause Style) <;> rfl
  | order =>
    simp only [set, read]
    cases (choice h : Except Cause Order) <;> rfl

theorem set_eq_ok {c c' : Config} {f : Field} {h : Head} :
    set c f h = .ok c' ↔ ∃ x, read h f = .ok x ∧ c' = c.put f x := by
  rw [set_eq, map_eq_ok]

def valueFor? (f : Field) (pairs : List (Node × Node)) : Option Head :=
  (pairs.find? fun pair ↦ (field pair.1.head).toOption = some f).map (·.2.head)

theorem located_eq_ok {α : Type} {place : Place} {mark : Yaml.Mark} {r : Except Cause α} {a : α} :
    located place mark r = .ok a ↔ r = .ok a := by
  cases r with
  | error cause => exact ⟨fun h ↦ (by cases h), fun h ↦ (by cases h)⟩
  | ok a' => exact ⟨fun h ↦ (by cases h; rfl), fun h ↦ (by cases h; rfl)⟩

/-- One pair of a mapping, and then the others. -/
theorem ofPairs_cons_eq_ok {mark : Yaml.Mark} {given : List Field} {c c' : Config}
    {key value : Node} {pairs : List (Node × Node)} :
    ofPairs mark given c ((key, value) :: pairs) = .ok c' ↔
      ∃ f x, field key.head = .ok f ∧ f ∉ given ∧ read value.head f = .ok x ∧
        ofPairs mark (f :: given) (c.put f x) pairs = .ok c' := by
  simp only [ofPairs, bind_eq_ok, located_eq_ok]
  constructor
  · rintro ⟨f, hf, h⟩
    split at h
    · cases h
    · next hg =>
      obtain ⟨c₁, hs, h⟩ := bind_eq_ok.1 h
      obtain ⟨x, hx, rfl⟩ := set_eq_ok.1 (located_eq_ok.1 hs)
      exact ⟨f, x, hf, by simpa using hg, hx, h⟩
  · rintro ⟨f, x, hf, hg, hx, h⟩
    have hc : given.contains f = false := by simpa using hg
    refine ⟨f, hf, ?_⟩
    rw [hc]
    exact bind_eq_ok.2 ⟨c.put f x, located_eq_ok.2 (set_eq_ok.2 ⟨x, hx, rfl⟩), h⟩

theorem valueFor?_cons {f g : Field} {key value : Node} {pairs : List (Node × Node)}
    (h : field key.head = .ok g) :
    valueFor? f ((key, value) :: pairs) = if g = f then some value.head else valueFor? f pairs := by
  by_cases hg : g = f <;> simp [valueFor?, h, hg, Except.toOption]

theorem valueFor?_of_given {mark : Yaml.Mark} {given : List Field} {c c' : Config}
    {pairs : List (Node × Node)} (h : ofPairs mark given c pairs = .ok c') {f : Field}
    (hf : f ∈ given) : valueFor? f pairs = none := by
  induction pairs generalizing given c with
  | nil => rfl
  | cons pair pairs ih =>
    obtain ⟨key, value⟩ := pair
    obtain ⟨g, x, hk, hg, -, h⟩ := ofPairs_cons_eq_ok.1 h
    have hne : g ≠ f := by
      rintro rfl
      exact hg hf
    rw [valueFor?_cons hk, if_neg hne]
    exact ih h (List.mem_cons_of_mem g hf)

/-- The value that a mapping has for a field, or else the one that the config had before. -/
theorem get_ofPairs {mark : Yaml.Mark} {given : List Field} {c c' : Config}
    {pairs : List (Node × Node)} (h : ofPairs mark given c pairs = .ok c') (f : Field) :
    match valueFor? f pairs with
    | some value => read value f = .ok (c'.get f)
    | none => c'.get f = c.get f := by
  induction pairs generalizing given c with
  | nil =>
    cases h
    rfl
  | cons pair pairs ih =>
    obtain ⟨key, value⟩ := pair
    obtain ⟨g, x, hk, hg, hx, h⟩ := ofPairs_cons_eq_ok.1 h
    have hi := ih h
    rw [valueFor?_cons hk]
    by_cases hgf : g = f
    · subst hgf
      rw [valueFor?_of_given h List.mem_cons_self] at hi
      have hi : c'.get g = x := hi.trans (get_put_self c g x)
      rw [if_pos rfl]
      exact hx.trans (congrArg Except.ok hi.symm)
    · rw [if_neg hgf]
      cases he : valueFor? f pairs with
      | some value => rwa [he] at hi
      | none =>
        rw [he, get_put_of_ne c (Ne.symm hgf)] at hi
        exact hi

def pairs : Node → List (Node × Node)
  | .mapping _ pairs => pairs
  | _ => []

theorem mismatch_ne_ok {α : Type} (h : Head) (wanted : Wanted) (a : α) :
    mismatch h wanted ≠ .ok a := by
  intro hm
  obtain ⟨x, -, hm⟩ := bind_eq_ok.1 hm
  cases hm

/-- A config holds what its file has for a field, and what is usual where the file has nothing. -/
theorem get_ofNode {node : Node} {c : Config} (h : ofNode node = .ok c) (f : Field) :
    match valueFor? f (pairs node) with
    | some value => read value f = .ok (c.get f)
    | none => c.get f = ({} : Config).get f := by
  cases node with
  | mapping head pairs => exact get_ofPairs h f
  | _ =>
    simp only [ofNode] at h
    split at h
    · cases h
      rfl
    · exact absurd (located_eq_ok.1 h) (mismatch_ne_ok _ _ _)

/-- One more pair for a field that the mapping says nothing about. -/
theorem ofPairs_concat {mark : Yaml.Mark} {given : List Field} {c c' : Config}
    {pairs : List (Node × Node)} (h : ofPairs mark given c pairs = .ok c') {f : Field}
    (hg : f ∉ given) (he : valueFor? f pairs = none) {key value : Node} (hk : field key.head = .ok f)
    (c'' : Config) :
    ofPairs mark given c (pairs ++ [(key, value)]) = .ok c'' ↔ set c' f value.head = .ok c'' := by
  induction pairs generalizing given c with
  | nil =>
    cases h
    rw [List.nil_append, ofPairs_cons_eq_ok, set_eq_ok]
    constructor
    · rintro ⟨g, x, hk', -, hx, h⟩
      cases hk.symm.trans hk'
      cases h
      exact ⟨x, hx, rfl⟩
    · rintro ⟨x, hx, rfl⟩
      exact ⟨f, x, hk, hg, hx, rfl⟩
  | cons pair pairs ih =>
    obtain ⟨key', value'⟩ := pair
    obtain ⟨g, x, hk', hg', hx, h⟩ := ofPairs_cons_eq_ok.1 h
    have hne : g ≠ f := by
      rintro rfl
      rw [valueFor?_cons hk', if_pos rfl] at he
      cases he
    rw [valueFor?_cons hk', if_neg hne] at he
    have hi := ih h (List.not_mem_cons_of_ne_of_not_mem (Ne.symm hne) hg) he
    rw [List.cons_append, ofPairs_cons_eq_ok, ← hi]
    constructor
    · rintro ⟨g', x', hk'', -, hx', h'⟩
      cases hk'.symm.trans hk''
      cases hx.symm.trans hx'
      exact h'
    · intro h'
      exact ⟨g, x, hk', hg', hx, h'⟩

end Config

namespace Settings

open CommandLine (Arguments Opt)
open Config (Field)

def get (s : Settings) : (f : Field) → f.Setting
  | .repository => s.repository
  | .style => s.style
  | .order => s.order
  | .apiUrl => s.apiUrl

def flag? (a : Arguments) : (f : Field) → Option f.Setting
  | .repository => a.repository
  | .style => a.style
  | .order => if a.sort then some .byName else a.order
  | .apiUrl => a.apiUrl

/-- What the config says about a setting. Any text may stand for a repository. -/
def configured? (c : Config) : (f : Field) → Option f.Setting
  | .repository => Repository.parse? c.repository
  | .style => some c.style
  | .order => some c.order
  | .apiUrl => some c.apiUrl

theorem resolve_eq (a : Arguments) (c : Config) :
    resolve a c = match (flag? a .repository).or (configured? c .repository) with
      | some r => .ok ⟨r, a.style.getD c.style,
          if a.sort then .byName else a.order.getD c.order, a.apiUrl.getD c.apiUrl⟩
      | none => .error (.invalidRepository c.repository) := by
  simp only [resolve, repository?, flag?, configured?]
  cases a.repository with
  | some r => rfl
  | none => cases Repository.parse? c.repository <;> rfl

theorem resolve_eq_ok {a : Arguments} {c : Config} {s : Settings} :
    resolve a c = .ok s ↔ ∀ f, (flag? a f).or (configured? c f) = some (s.get f) := by
  have hd {α : Type} (o : Option α) (x y : α) : o.or (some x) = some y ↔ o.getD x = y := by
    cases o <;> simp
  have hs : (if a.sort then some Order.byName else a.order).getD c.order =
      if a.sort then .byName else a.order.getD c.order := by
    split <;> rfl
  rw [Field.forall_field, resolve_eq]
  simp only [configured?, hd, flag?, get, hs]
  cases hr : a.repository.or (Repository.parse? c.repository) with
  | none => simp
  | some r =>
    cases s
    simp

theorem resolve_eq_error {a : Arguments} {c : Config} {failure : Failure} :
    resolve a c = .error failure ↔ flag? a .repository = none ∧ configured? c .repository = none ∧
      failure = .invalidRepository c.repository := by
  rw [resolve_eq]
  cases hr : (flag? a .repository).or (configured? c .repository) with
  | none =>
    rw [Option.or_eq_none_iff] at hr
    simp [hr.1, hr.2, eq_comm]
  | some r =>
    constructor
    · intro h
      cases h
    · rintro ⟨hf, hc, -⟩
      rw [hf, hc] at hr
      cases hr

theorem configured?_congr {c c' : Config} {f : Field} (h : c'.get f = c.get f) :
    configured? c' f = configured? c f := by
  cases f with
  | repository => exact congrArg Repository.parse? h
  | style | order | apiUrl => exact congrArg some h

/-- What the command line says nothing about is all that the config is looked at for. -/
theorem resolve_congr {a : Arguments} {c c' : Config}
    (h : ∀ f, flag? a f = none → c'.get f = c.get f) : resolve a c' = resolve a c := by
  have ho (f : Field) :
      (flag? a f).or (configured? c' f) = (flag? a f).or (configured? c f) := by
    cases hf : flag? a f with
    | some x => rfl
    | none => rw [configured?_congr (h f hf)]
  cases hr : resolve a c' with
  | ok s =>
    refine (resolve_eq_ok.2 fun f ↦ ?_).symm
    rw [← ho]
    exact resolve_eq_ok.1 hr f
  | error failure =>
    obtain ⟨hf, hc, rfl⟩ := resolve_eq_error.1 hr
    have hg : c'.repository = c.repository := h .repository hf
    rw [configured?_congr (h .repository hf)] at hc
    rw [hg]
    exact (resolve_eq_error.2 ⟨hf, hc, rfl⟩).symm

def untagged (mark : Yaml.Mark) (plain : Bool) (s : String) : Yaml.Head :=
  ⟨mark, none, .scalar plain s⟩

section

variable {a : Arguments} {c : Config} (mark : Yaml.Mark) (plain : Bool) (s : String)

theorem choice_agrees {α : Type} [Choice α] (h : (Choice.ofLabel? "" : Option α) = none)
    (o : Opt) (x : α) :
    CommandLine.Accepted.choice o s = .ok x ↔ Config.choice (untagged mark plain s) = .ok x := by
  have hc : (Config.choice (untagged mark plain s) : Except Config.Cause α) = Config.named s := rfl
  rw [hc, CommandLine.Accepted.choice, Config.named]
  by_cases he : s = ""
  · subst he
    simp [h]
  · have hs : s.isEmpty = false := by simpa using he
    rw [hs]
    cases (Choice.ofLabel? s : Option α) <;> simp

theorem exists_pure_bind {ε α β : Type} {x : Except ε α} {f : α → β} {P : β → Prop} :
    (∃ b, (do return f (← x) : Except ε β) = .ok b ∧ P b) ↔ ∃ a, x = .ok a ∧ P (f a) := by
  cases x with
  | error e => simp [Bind.bind, Except.bind]
  | ok a => simp [Bind.bind, Except.bind, pure, Except.pure]

/-- The command line and the config make the same of every text. -/
theorem resolve_agrees {f : Field} (hf : flag? a f = none) (settings : Settings) :
    (∃ a', CommandLine.Accepted.set a f.option s = .ok a' ∧ resolve a' c = .ok settings) ↔
      ∃ c', Config.set c f (untagged mark plain s) = .ok c' ∧ resolve a c' = .ok settings := by
  cases f with
  | repository =>
    have hr : a.repository = none := hf
    have hc : Config.set c .repository (untagged mark plain s) =
        .ok { c with repository := s } := rfl
    simp only [Field.option, CommandLine.Accepted.set, hc]
    cases hp : Repository.parse? s <;>
      simp [resolve_eq, flag?, configured?, hr, hp]
  | style =>
    have hr : a.style = none := hf
    have hx (x : Style) : resolve { a with style := some x } c = resolve a { c with style := x } := by
      simp [resolve_eq, flag?, configured?, hr]
    simp only [Field.option, CommandLine.Accepted.set, Config.set, exists_pure_bind]
    exact exists_congr fun x ↦ by rw [choice_agrees mark plain s rfl .format x, hx]
  | order =>
    obtain ⟨hs, hr⟩ : a.sort = false ∧ a.order = none := by
      cases hs : a.sort with
      | true =>
        rw [flag?, hs] at hf
        cases hf
      | false =>
        rw [flag?, hs] at hf
        exact ⟨rfl, hf⟩
    have hx (x : Order) : resolve { a with order := some x } c = resolve a { c with order := x } := by
      simp [resolve_eq, flag?, configured?, hs, hr]
    simp only [Field.option, CommandLine.Accepted.set, Config.set, exists_pure_bind]
    exact exists_congr fun x ↦ by rw [choice_agrees mark plain s rfl .order x, hx]
  | apiUrl =>
    have hr : a.apiUrl = none := hf
    have hc : Config.set c .apiUrl (untagged mark plain s) = .ok { c with apiUrl := s } := rfl
    simp [Field.option, CommandLine.Accepted.set, hc, resolve_eq, flag?, configured?, hr]

end

theorem has_of_flag? {a : Arguments} {f : Field} (hf : flag? a f = none) :
    a.has f.option = false ∧ (f.option = .order → a.sort = false) := by
  cases f with
  | repository | style | apiUrl =>
    refine ⟨?_, fun h ↦ by cases h⟩
    simpa [Field.option, Arguments.has, flag?] using hf
  | order =>
    cases hs : a.sort with
    | true =>
      rw [flag?, hs] at hf
      cases hf
    | false =>
      rw [flag?, hs] at hf
      exact ⟨by simpa [Field.option, Arguments.has] using hf, fun _ ↦ rfl⟩

/-- A setting is what the command line says, or else what the config file says, or else the usual,
and depends on nothing else. A text means the same to it in either place. -/
theorem resolve_precedence {words : List String} {a : Arguments}
    (hp : CommandLine.parse words = .ok a) :
    (a.sort = false ∨ a.order = none) ∧
    (∀ (node : Yaml.Node) (c : Config), Config.ofNode node = .ok c → ∀ f,
      (∀ value ∈ Config.valueFor? f (Config.pairs node), Config.read value f = .ok (c.get f)) ∧
      (Config.valueFor? f (Config.pairs node) = none → c.get f = ({} : Config).get f)) ∧
    (∀ c settings, resolve a c = .ok settings ↔
      ∀ f, (flag? a f).or (configured? c f) = some (settings.get f)) ∧
    (∀ c failure, resolve a c = .error failure ↔ flag? a .repository = none ∧
      configured? c .repository = none ∧ failure = .invalidRepository c.repository) ∧
    (∀ c c', (∀ f, flag? a f = none → c'.get f = c.get f) → resolve a c' = resolve a c) ∧
    ∀ (f : Field) (s : String), flag? a f = none → a.configSchema = false →
      ∀ (head : Yaml.Head) (pairs : List (Yaml.Node × Yaml.Node)) (c : Config),
      Config.ofNode (.mapping head pairs) = .ok c → Config.valueFor? f pairs = none →
      ∀ (key value : Yaml.Node) (mark : Yaml.Mark) (plain : Bool),
      Config.field key.head = .ok f → value.head = untagged mark plain s →
      ∀ settings,
        (∃ a', CommandLine.parse (f.option.word s :: words) = .ok a' ∧
          resolve a' c = .ok settings) ↔
        ∃ c', Config.ofNode (.mapping head (pairs ++ [(key, value)])) = .ok c' ∧
          resolve a c' = .ok settings := by
  refine ⟨CommandLine.order_of_parse hp, fun node c hc f ↦ ?_, fun c settings ↦ resolve_eq_ok,
    fun c failure ↦ resolve_eq_error, fun c c' ↦ resolve_congr, ?_⟩
  · have hg := Config.get_ofNode hc f
    cases he : Config.valueFor? f (Config.pairs node) with
    | some value =>
      rw [he] at hg
      refine ⟨?_, fun h ↦ by cases h⟩
      rintro value' ⟨⟩
      exact hg
    | none =>
      rw [he] at hg
      refine ⟨?_, fun _ ↦ hg⟩
      rintro value' ⟨⟩
  · intro f s hf hschema head pairs c hc he key value mark plain hk hv settings
    obtain ⟨hn, ho⟩ := has_of_flag? hf
    have hv' : f.option.takesValue = true := by cases f <;> rfl
    have hc : Config.ofPairs head.mark [] {} pairs = .ok c := hc
    have hpairs (c' : Config) :
        Config.ofNode (.mapping head (pairs ++ [(key, value)])) = .ok c' ↔
          Config.set c f (untagged mark plain s) = .ok c' := by
      rw [← hv]
      exact Config.ofPairs_concat hc List.not_mem_nil he hk c'
    simp only [CommandLine.parse_word hp hv' hn hschema ho, hpairs]
    exact resolve_agrees mark plain s hf settings

theorem resolve_precedence_overridden :
    let a : Arguments :=
      ⟨some ⟨"o", "r", by decide, by decide⟩, none, true, none, none, false, false⟩
    CommandLine.parse ["--repo=o/r", "--sort"] = .ok a ∧
      resolve a { repository := "nowhere", style := .plain } = resolve a { style := .plain } := by
  intro a
  have hp : CommandLine.parse ["--repo=o/r", "--sort"] = .ok a := rfl
  refine ⟨hp, (resolve_precedence hp).2.2.2.2.1 _ _ ?_⟩
  intro f hf
  cases f with
  | repository => cases hf
  | style | order | apiUrl => rfl

end Settings

end CreditRoll
