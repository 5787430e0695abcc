import CreditRoll.CommandLine.Arguments

namespace CreditRoll

variable {ε α β : Type}

theorem bind_eq_ok {x : Except ε α} {f : α → Except ε β} {b : β} :
    x >>= f = .ok b ↔ ∃ a, x = .ok a ∧ f a = .ok b := by
  cases x with
  | error e =>
    constructor
    · intro h
      cases h
    · rintro ⟨a, h, -⟩
      cases h
  | ok a =>
    constructor
    · exact fun h ↦ ⟨a, rfl, h⟩
    · rintro ⟨a', h, hf⟩
      cases h
      exact hf

theorem map_eq_ok {x : Except ε α} {f : α → β} {b : β} :
    x.map f = .ok b ↔ ∃ a, x = .ok a ∧ b = f a := by
  cases x with
  | error e =>
    constructor
    · intro h
      cases h
    · rintro ⟨a, h, -⟩
      cases h
  | ok a =>
    constructor
    · intro h
      cases h
      exact ⟨a, rfl, rfl⟩
    · rintro ⟨a', h, rfl⟩
      cases h
      rfl

namespace CommandLine

def Accepted.addAll (a : Accepted) (options : List (Opt × String)) : Except Stop Accepted :=
  options.foldlM (fun a option ↦ a.add option.1 option.2) a

theorem Accepted.addAll_cons (a : Accepted) (o : Opt) (value : String)
    (options : List (Opt × String)) :
    a.addAll ((o, value) :: options) = a.add o value >>= (·.addAll options) :=
  List.foldlM_cons

theorem Accepted.addAll_append (a : Accepted) (options options' : List (Opt × String)) :
    a.addAll (options ++ options') = a.addAll options >>= (·.addAll options') :=
  List.foldlM_append

/-- A reader that does nothing but accept options, the same ones whatever was accepted before. -/
def Uniform {β : Type} (read : Accepted → Except Stop (Accepted × β)) : Prop :=
  ∀ a b x, read a = .ok (b, x) → ∃ options, a.addAll options = .ok b ∧
    ∀ a' b', a'.addAll options = .ok b' → read a' = .ok (b', x)

namespace Uniform

variable {β γ : Type} {read : Accepted → Except Stop (Accepted × β)}

theorem pure (x : β) : Uniform fun a ↦ .ok (a, x) := by
  intro a b y h
  cases h
  refine ⟨[], rfl, fun a' b' h ↦ ?_⟩
  cases h
  rfl

theorem error (stop : Stop) : Uniform fun _ ↦ (.error stop : Except Stop (Accepted × β)) := by
  intro a b x h
  cases h

theorem add (o : Opt) (value : String) (h : Uniform read) :
    Uniform fun a ↦ a.add o value >>= read := by
  intro a b x hr
  obtain ⟨a₁, ha, hr⟩ := bind_eq_ok.1 hr
  obtain ⟨options, hb, hu⟩ := h _ _ _ hr
  refine ⟨(o, value) :: options, ?_, fun a' b' hb' ↦ ?_⟩
  · rw [Accepted.addAll_cons]
    exact bind_eq_ok.2 ⟨a₁, ha, hb⟩
  · rw [Accepted.addAll_cons] at hb'
    obtain ⟨a₁', ha', hb'⟩ := bind_eq_ok.1 hb'
    exact bind_eq_ok.2 ⟨a₁', ha', hu _ _ hb'⟩

theorem settle (p : Pending) (h : Uniform read) : Uniform fun a ↦ p.settle a >>= read := by
  match p with
  | none => exact h
  | some (o, some value) => exact h.add o value
  | some (o, none) => exact error _

theorem bind {next : β → Accepted → Except Stop (Accepted × γ)} (h : Uniform read)
    (hn : ∀ x, Uniform (next x)) : Uniform fun a ↦ read a >>= fun r ↦ next r.2 r.1 := by
  intro a b y hr
  obtain ⟨⟨a₁, x⟩, ha, hr⟩ := bind_eq_ok.1 hr
  obtain ⟨options, ho, hu⟩ := h _ _ _ ha
  obtain ⟨options', ho', hu'⟩ := hn x _ _ _ hr
  refine ⟨options ++ options', ?_, fun a' b' hb' ↦ ?_⟩
  · rw [Accepted.addAll_append]
    exact bind_eq_ok.2 ⟨a₁, ho, ho'⟩
  · rw [Accepted.addAll_append] at hb'
    obtain ⟨a₁', ha', hb'⟩ := bind_eq_ok.1 hb'
    exact bind_eq_ok.2 ⟨_, hu _ _ ha', hu' _ _ hb'⟩

theorem then_readWords {read : Accepted → Except Stop (Accepted × Pending)} (h : Uniform read)
    {words : List String} (hw : ∀ p, Uniform fun a ↦ (readWords a p words).map (·, ())) :
    Uniform fun a ↦ (read a >>= fun r ↦ readWords r.1 r.2 words).map (·, ()) := by
  have hm : (fun a ↦ (read a >>= fun r ↦ readWords r.1 r.2 words).map (·, ())) =
      fun a ↦ read a >>= fun r ↦ (readWords r.1 r.2 words).map (·, ()) := by
    funext a
    cases read a <;> rfl
  rw [hm]
  exact h.bind hw

end Uniform

theorem uniform_readLong (p : Pending) (name : String) (value : Option String) :
    Uniform (readLong · p name value) := by
  unfold readLong
  split
  · exact .error _
  · next o _ =>
    split
    · exact .settle p (.pure _)
    · exact .settle p (.add o _ (.pure _))
    · exact .settle p (.add o "" (.pure _))
    · exact .error _

theorem uniform_readShort (p : Pending) (w : List Char) : Uniform (readShort · p w) := by
  induction w generalizing p with
  | nil => exact .pure p
  | cons c rest ih =>
    unfold readShort
    split
    · exact .error _
    · exact .settle p (.error _)
    · next o _ _ =>
      split
      · split
        · exact .settle p (.pure _)
        · exact .settle p (.add o _ (.pure _))
        · exact .settle p (.add o _ (.pure _))
      · exact .settle p (.add o "" (ih none))

/-- What the words of a command line ask for does not depend on the words before them. -/
theorem uniform_readWords (p : Pending) (words : List String) :
    Uniform fun a ↦ (readWords a p words).map (·, ()) := by
  have hp (p : Pending) : Uniform fun a ↦ (p.settle a).map (·, ()) := .settle p (.pure ())
  induction words generalizing p with
  | nil => exact hp p
  | cons w ws ih =>
    simp only [readWords]
    split
    · split
      · exact hp p
      · exact .error _
    · split
      · next name value _ => exact (uniform_readLong p name value).then_readWords ih
      · split
        · exact (uniform_readShort _ _).then_readWords ih
        · exact ih _
        · exact .error _

def Accepted.setAll (a : Arguments) (options : List (Opt × String)) : Except Stop Arguments :=
  options.foldlM (fun a option ↦ set a option.1 option.2) a

theorem Accepted.setAll_cons (a : Arguments) (o : Opt) (value : String)
    (options : List (Opt × String)) :
    setAll a ((o, value) :: options) = set a o value >>= (setAll · options) :=
  List.foldlM_cons

theorem Accepted.add_eq_ok {a b : Accepted} {o : Opt} {value : String} :
    a.add o value = .ok b ↔
      o ∉ a.given ∧ b.given = a.given ++ [o] ∧ set a.arguments o value = .ok b.arguments := by
  by_cases ho : o ∈ a.given
  · simp [add, ho]
  · have hc : a.given.contains o = false := by simpa using ho
    rcases b with ⟨given, arguments⟩
    simp only [add, hc, Bool.false_eq_true, if_false, bind_eq_ok]
    constructor
    · rintro ⟨x, hx, h⟩
      cases h
      exact ⟨ho, rfl, hx⟩
    · rintro ⟨-, rfl, hx⟩
      exact ⟨arguments, hx, rfl⟩

theorem Accepted.addAll_eq_ok {a b : Accepted} {options : List (Opt × String)} :
    a.addAll options = .ok b ↔ b.given = a.given ++ options.map (·.1) ∧
      (options.map (·.1)).Nodup ∧ (∀ o ∈ options.map (·.1), o ∉ a.given) ∧
      setAll a.arguments options = .ok b.arguments := by
  induction options generalizing a with
  | nil =>
    rcases a with ⟨given, arguments⟩
    rcases b with ⟨given', arguments'⟩
    simp [addAll, setAll, pure, Except.pure, eq_comm]
  | cons option options ih =>
    obtain ⟨o, value⟩ := option
    simp only [addAll_cons, setAll_cons, bind_eq_ok, add_eq_ok, ih]
    constructor
    · rintro ⟨a₁, ⟨ho, hg, hs⟩, hb, hn, hd, hr⟩
      rw [hg] at hb hd
      refine ⟨by simp [hb], ?_, ?_, a₁.arguments, hs, hr⟩
      · refine List.nodup_cons.2 ⟨fun hm ↦ hd o hm (by simp), hn⟩
      · refine List.forall_mem_cons.2 ⟨ho, fun o' hm ho' ↦ hd o' hm (by simp [ho'])⟩
    · rintro ⟨hb, hn, hd, x, hs, hr⟩
      obtain ⟨hm, hn⟩ := List.nodup_cons.1 hn
      obtain ⟨ho, hd⟩ := List.forall_mem_cons.1 hd
      refine ⟨⟨a.given ++ [o], x⟩, ⟨ho, rfl, hs⟩, by simp [hb], hn, fun o' ho' hg ↦ ?_, hr⟩
      rcases List.mem_append.1 hg with hg | hg
      · exact hd o' ho' hg
      · rw [List.mem_singleton] at hg
        subst hg
        exact hm ho'

inductive Wish where
  | repository (r : Repository)
  | style (s : Style)
  | sort
  | order (o : Order)
  | apiUrl (url : String)
  | verbose
  | configSchema

namespace Wish

def opt : Wish → Opt
  | repository _ => .repo
  | style _ => .format
  | sort => .sort
  | order _ => .order
  | apiUrl _ => .apiUrl
  | verbose => .verbose
  | configSchema => .configSchema

def apply (a : Arguments) : Wish → Arguments
  | repository r => { a with repository := some r }
  | style s => { a with style := some s }
  | sort => { a with sort := true }
  | order o => { a with order := some o }
  | apiUrl url => { a with apiUrl := some url }
  | verbose => { a with verbose := true }
  | configSchema => { a with configSchema := true }

def read (o : Opt) (value : String) : Except Stop Wish :=
  match o with
  | .repo =>
    match Repository.parse? value with
    | some r => .ok (repository r)
    | none => .error (.malformedRepository value)
  | .format => (Accepted.choice .format value).map style
  | .sort => .ok sort
  | .order => (Accepted.choice .order value).map order
  | .apiUrl => .ok (apiUrl value)
  | .verbose => .ok verbose
  | .configSchema => .ok configSchema
  | .help => .error .longHelp
  | .version => .error .version

/-- What an option asks for does not depend on what is asked for already. -/
theorem set_eq (a : Arguments) (o : Opt) (value : String) :
    Accepted.set a o value = (read o value).map (apply a) := by
  cases o with
  | repo =>
    simp only [Accepted.set, read]
    cases Repository.parse? value <;> rfl
  | format =>
    simp only [Accepted.set, read]
    cases (Accepted.choice .format value : Except Stop Style) <;> rfl
  | order =>
    simp only [Accepted.set, read]
    cases (Accepted.choice .order value : Except Stop Order) <;> rfl
  | _ => rfl

theorem opt_of_read {o : Opt} {value : String} {w : Wish} (h : read o value = .ok w) :
    w.opt = o := by
  cases o with
  | repo =>
    simp only [read] at h
    split at h <;> cases h
    rfl
  | format | order =>
    obtain ⟨x, -, rfl⟩ := map_eq_ok.1 h
    rfl
  | sort | apiUrl | verbose | configSchema =>
    cases h
    rfl
  | help | version => cases h

theorem apply_comm {w w' : Wish} (h : w.opt ≠ w'.opt) (a : Arguments) :
    w.apply (w'.apply a) = w'.apply (w.apply a) := by
  cases w <;> cases w' <;> first | rfl | exact absurd rfl h

end Wish

def Arguments.has (a : Arguments) : Opt → Bool
  | .repo => a.repository.isSome
  | .format => a.style.isSome
  | .sort => a.sort
  | .order => a.order.isSome
  | .apiUrl => a.apiUrl.isSome
  | .verbose => a.verbose
  | .configSchema => a.configSchema
  | .help | .version => false

theorem Wish.has_apply (a : Arguments) (w : Wish) (o : Opt) :
    (w.apply a).has o = (o == w.opt || a.has o) := by
  cases w <;> cases o <;> rfl

namespace Accepted

theorem set_eq_ok {a a' : Arguments} {o : Opt} {value : String} (h : set a o value = .ok a') :
    ∃ w : Wish, Wish.read o value = .ok w ∧ w.opt = o ∧ a' = w.apply a := by
  rw [Wish.set_eq] at h
  obtain ⟨w, hw, rfl⟩ := map_eq_ok.1 h
  exact ⟨w, hw, Wish.opt_of_read hw, rfl⟩

theorem set_error {a : Arguments} {o : Opt} {value : String} {stop : Stop}
    (h : set a o value = .error stop) (a' : Arguments) : set a' o value = .error stop := by
  rw [Wish.set_eq] at h ⊢
  cases hw : Wish.read o value with
  | error stop' =>
    rw [hw] at h
    cases h
    rfl
  | ok w =>
    rw [hw] at h
    cases h

theorem has_setAll {a a' : Arguments} {options : List (Opt × String)}
    (h : setAll a options = .ok a') (o : Opt) :
    a'.has o = true ↔ o ∈ options.map (·.1) ∨ a.has o = true := by
  induction options generalizing a with
  | nil =>
    cases h
    simp
  | cons option options ih =>
    obtain ⟨o', value⟩ := option
    rw [setAll_cons] at h
    obtain ⟨a₁, hs, h⟩ := bind_eq_ok.1 h
    obtain ⟨w, -, rfl, rfl⟩ := set_eq_ok hs
    rw [ih h, Wish.has_apply, Bool.or_eq_true, beq_iff_eq, List.map_cons, List.mem_cons]
    constructor
    · rintro (h | h | h)
      · exact .inl (.inr h)
      · exact .inl (.inl h)
      · exact .inr h
    · rintro ((h | h) | h)
      · exact .inr (.inl h)
      · exact .inl h
      · exact .inr (.inr h)

/-- An option can as well be set after all the others. -/
theorem setAll_cons_of_not_mem {a a' : Arguments} {options : List (Opt × String)} {o : Opt}
    (value : String) (h : setAll a options = .ok a') (ho : o ∉ options.map (·.1)) :
    setAll a ((o, value) :: options) = set a' o value := by
  rw [setAll_cons, Wish.set_eq, Wish.set_eq]
  cases hw : Wish.read o value with
  | error stop => rfl
  | ok w =>
    have hr : setAll (w.apply a) options = .ok (w.apply a') := by
      induction options generalizing a with
      | nil =>
        cases h
        rfl
      | cons option options ih =>
        obtain ⟨o', value'⟩ := option
        rw [setAll_cons] at h ⊢
        obtain ⟨a₁, hs, h⟩ := bind_eq_ok.1 h
        obtain ⟨w', hw', ho', rfl⟩ := set_eq_ok hs
        rw [List.map_cons, List.mem_cons, not_or] at ho
        have hne : w'.opt ≠ w.opt := by
          rw [ho', Wish.opt_of_read hw]
          exact Ne.symm ho.1
        refine bind_eq_ok.2 ⟨w.apply (w'.apply a), ?_, ih h ho.2⟩
        rw [Wish.set_eq, hw', ← Wish.apply_comm hne]
        rfl
    exact hr

theorem check_eq_ok {b : Accepted} {a : Arguments} :
    b.check = .ok a ↔ a = b.arguments ∧ (.configSchema ∈ b.given → b.given.length ≤ 1) ∧
      (b.given.filter fun o ↦ o = .sort ∨ o = .order).length ≤ 1 := by
  unfold check
  split
  · next hc =>
    simp only [Bool.and_eq_true, List.contains_iff_mem, decide_eq_true_eq] at hc
    constructor
    · intro h
      cases h
    · rintro ⟨-, h, -⟩
      exact absurd (h hc.1) (by omega)
  · next hc =>
    simp only [Bool.and_eq_true, List.contains_iff_mem, decide_eq_true_eq, not_and] at hc
    split
    · next first second rest hf =>
      constructor
      · intro h
        cases h
      · rintro ⟨-, -, h⟩
        rw [hf] at h
        simp at h
    · next hf =>
      constructor
      · intro h
        cases h
        refine ⟨rfl, fun hm ↦ by have := hc hm; omega, ?_⟩
        rcases hl : b.given.filter fun o ↦ o = .sort ∨ o = .order with _ | ⟨o, _ | ⟨o', rest⟩⟩
        · rw [hl]
          exact Nat.zero_le 1
        · rw [hl]
          exact Nat.le_refl 1
        · exact absurd hl (hf o o' rest)
      · rintro ⟨rfl, -, -⟩
        rfl

end Accepted

/-- What the options of a command line are, and that they are read the same after other ones. -/
theorem parse_eq_ok {words : List String} {a : Arguments} (h : parse words = .ok a) :
    ∃ options b, Accepted.none.addAll options = .ok b ∧ b.check = .ok a ∧
      ∀ a' b', a'.addAll options = .ok b' → readWords a' none words = .ok b' := by
  obtain ⟨b, hr, hc⟩ := bind_eq_ok.1 h
  have hm : (readWords .none none words).map (·, ()) = .ok (b, ()) := by
    rw [hr]
    rfl
  obtain ⟨options, hb, hu⟩ := uniform_readWords none words _ _ _ hm
  refine ⟨options, b, hb, hc, fun a' b' h' ↦ ?_⟩
  obtain ⟨b'', hr', he⟩ := map_eq_ok.1 (hu a' b' h')
  cases he
  exact hr'

theorem has_of_parse {words : List String} {a : Arguments} (h : parse words = .ok a) :
    ∃ b : Accepted, b.check = .ok a ∧ ∀ o, a.has o = true ↔ o ∈ b.given := by
  obtain ⟨options, b, hb, hc, -⟩ := parse_eq_ok h
  obtain ⟨hg, -, -, hs⟩ := Accepted.addAll_eq_ok.1 hb
  refine ⟨b, hc, fun o ↦ ?_⟩
  have hn : Accepted.none.arguments.has o = false := by cases o <;> rfl
  rw [(Accepted.check_eq_ok.1 hc).1, Accepted.has_setAll hs, hn, hg]
  simp [Accepted.none]

/-- At most one option says how the credits are arranged. -/
theorem order_of_parse {words : List String} {a : Arguments} (h : parse words = .ok a) :
    a.sort = false ∨ a.order = none := by
  obtain ⟨b, hc, hh⟩ := has_of_parse h
  obtain ⟨-, -, hl⟩ := Accepted.check_eq_ok.1 hc
  cases hs : a.sort with
  | false => exact .inl rfl
  | true =>
    cases ho : a.order with
    | none => exact .inr rfl
    | some order =>
      have hms : Opt.sort ∈ b.given.filter fun o ↦ o = .sort ∨ o = .order :=
        List.mem_filter.2 ⟨(hh .sort).1 hs, by decide⟩
      have hmo : Opt.order ∈ b.given.filter fun o ↦ o = .sort ∨ o = .order :=
        List.mem_filter.2 ⟨(hh .order).1 (by simp [Arguments.has, ho]), by decide⟩
      rcases hf : b.given.filter fun o ↦ o = .sort ∨ o = .order with _ | ⟨o, _ | ⟨o', rest⟩⟩
      · rw [hf] at hms
        cases hms
      · rw [hf, List.mem_singleton] at hms hmo
        cases hms.trans hmo.symm
      · rw [hf] at hl
        exact absurd hl (by simp)

theorem longWord?_cons {name : List Char} (h : '=' ∉ name) (value : List Char) :
    longWord? ('-' :: '-' :: (name ++ '=' :: value)) =
      some (String.ofList name, some (String.ofList value)) := by
  have hn : ∀ c ∈ name, (c != '=') = true := by
    intro c hc
    rw [bne_iff_ne]
    rintro rfl
    exact h hc
  have he : ('=' != '=') = false := rfl
  simp only [longWord?, List.takeWhile_append_of_pos hn, List.dropWhile_append_of_pos hn,
    List.takeWhile_cons, List.dropWhile_cons, he, Bool.false_eq_true, if_false, List.append_nil]

def Opt.word (o : Opt) (value : String) : String := "--" ++ o.long ++ "=" ++ value

theorem longWord?_word (o : Opt) (value : String) :
    longWord? (o.word value).toList = some (o.long, some value) := by
  have hd : "--".toList = ['-', '-'] := rfl
  have he : "=".toList = ['='] := rfl
  have ho : '=' ∉ o.long.toList := by cases o <;> decide
  have hw : (o.word value).toList = '-' :: '-' :: (o.long.toList ++ '=' :: value.toList) := by
    rw [Opt.word, String.toList_append, String.toList_append, String.toList_append, hd, he]
    simp
  rw [hw, longWord?_cons ho, String.ofList_toList, String.ofList_toList]

theorem ofLong?_long (o : Opt) : Opt.ofLong? o.long = some o := by
  cases o <;> decide

theorem readLong_completes (a : Accepted) (p : Pending) {o : Opt} (ho : o.takesValue = true)
    (value : String) :
    readLong a p o.long (some value) =
      p.settle a >>= fun b ↦ b.add o value >>= fun b ↦ .ok (b, none) := by
  simp only [readLong, ofLong?_long, ho]
  rfl

theorem readWords_long (a : Accepted) (p : Pending) {w name : String} {value : Option String}
    (hl : longWord? w.toList = some (name, value)) (hw : w ≠ "--") (rest : List String) :
    readWords a p (w :: rest) = readLong a p name value >>= fun r ↦ readWords r.1 r.2 rest := by
  simp only [readWords, if_neg hw, hl]

theorem readWords_word (a : Accepted) (p : Pending) {o : Opt} (ho : o.takesValue = true)
    (value : String) (rest : List String) :
    readWords a p (o.word value :: rest) =
      p.settle a >>= fun b ↦ b.add o value >>= (readWords · none rest) := by
  have hl := longWord?_word o value
  have hw : o.word value ≠ "--" := by
    intro h
    have hd : longWord? "--".toList = some ("", none) := by decide
    rw [h, hd] at hl
    cases (Prod.mk.inj (Option.some.inj hl)).2
  rw [readWords_long a p hl hw, readLong_completes a p ho]
  simp only [bind_assoc]
  rfl

/-- One more option keeps the rules if it has no part in them, or if it is the first about the
order. -/
theorem Accepted.check_cons {given : List Opt} {o : Opt} (ho : o ≠ .sort)
    (hs : .configSchema ∉ o :: given)
    (hl : (given.filter fun o ↦ o = .sort ∨ o = .order).length ≤ 1)
    (hc : o = .order → .sort ∉ given ∧ .order ∉ given) (a : Arguments) :
    check ⟨o :: given, a⟩ = .ok a := by
  refine check_eq_ok.2 ⟨rfl, fun hm ↦ absurd hm hs, ?_⟩
  by_cases hord : o = .order
  · obtain ⟨hsort, horder⟩ := hc hord
    have hempty : (given.filter fun o ↦ o = .sort ∨ o = .order) = [] := by
      refine List.filter_eq_nil_iff.2 fun o' hm ↦ ?_
      rw [decide_eq_true_eq]
      rintro (rfl | rfl)
      · exact hsort hm
      · exact horder hm
    rw [List.filter_cons, hempty]
    split
    · exact Nat.le_refl 1
    · exact Nat.zero_le 1
  · rw [List.filter_cons_of_neg (by simp [hord, ho])]
    exact hl

/-- An option may stand before the others, and then asks for what it would ask for after them. -/
theorem parse_before {words : List String} {a : Arguments} (h : parse words = .ok a) {o : Opt}
    (hn : a.has o = false) (hs : a.configSchema = false) (ho : o ≠ .configSchema ∧ o ≠ .sort)
    (hc : o = .order → a.sort = false) {word value : String}
    (hw : ∀ b, readWords b none (word :: words) = b.add o value >>= (readWords · none words)) :
    parse (word :: words) = Accepted.set a o value := by
  obtain ⟨options, b, hb, hk, hu⟩ := parse_eq_ok h
  obtain ⟨hg, hd, -, hset⟩ := Accepted.addAll_eq_ok.1 hb
  have hg : b.given = options.map (·.1) := hg
  obtain ⟨rfl, -, hl⟩ := Accepted.check_eq_ok.1 hk
  have hgiven (o' : Opt) (h' : b.arguments.has o' = false) : o' ∉ options.map (·.1) := by
    intro hm
    have := (Accepted.has_setAll hset o').2 (.inl hm)
    simp [h'] at this
  have hlast := Accepted.setAll_cons_of_not_mem value hset (hgiven o hn)
  simp only [parse, hw]
  cases hw : Accepted.set b.arguments o value with
  | error stop =>
    have hadd : Accepted.none.add o value = .error stop := by
      simp only [Accepted.add, Accepted.set_error hw]
      rfl
    rw [hadd]
    rfl
  | ok a =>
    rw [hw] at hlast
    let b' : Accepted := ⟨o :: b.given, a⟩
    have hall : Accepted.none.addAll ((o, value) :: options) = .ok b' := by
      refine Accepted.addAll_eq_ok.2 ⟨?_, ?_, fun _ _ ↦ List.not_mem_nil, hlast⟩
      · exact congrArg (o :: ·) hg
      · exact List.nodup_cons.2 ⟨hgiven o hn, hd⟩
    rw [Accepted.addAll_cons] at hall
    obtain ⟨a₁, hadd, hrest⟩ := bind_eq_ok.1 hall
    have hschema : .configSchema ∉ o :: b.given := by
      rw [hg, List.mem_cons, not_or]
      exact ⟨ho.1.symm, hgiven .configSchema hs⟩
    have hcheck : b'.check = .ok a := by
      refine Accepted.check_cons ho.2 hschema hl (fun hord ↦ ?_) a
      rw [hg]
      exact ⟨hgiven .sort (hc hord), hgiven .order (hord ▸ hn)⟩
    rw [hadd]
    exact bind_eq_ok.2 ⟨b', bind_eq_ok.2 ⟨a₁, rfl, hu a₁ b' hrest⟩, hcheck⟩

theorem parse_word {words : List String} {a : Arguments} (h : parse words = .ok a) {o : Opt}
    (ho : o.takesValue = true) (hn : a.has o = false) (hs : a.configSchema = false)
    (hc : o = .order → a.sort = false) (value : String) :
    parse (o.word value :: words) = Accepted.set a o value := by
  have hne : o ≠ .configSchema ∧ o ≠ .sort := by
    constructor
    · rintro rfl
      cases ho
    · rintro rfl
      cases ho
  exact parse_before h hn hs hne hc fun b ↦ readWords_word b none ho value words

end CommandLine

end CreditRoll
