import CreditRoll.Proofs.Blanks
import CreditRoll.Proofs.Spelling
import Mathlib.Data.List.Perm.Subperm

namespace CreditRoll

namespace CommandLine

def Fails {α : Type} (x : Except Stop α) : Prop := ∃ stop, x = .error stop ∧ stop.isError = true

def Blames {α : Type} (x : Except Stop α) : Prop := ∀ stop, x = .error stop → stop.isError = true

section

variable {α β : Type} {x : Except Stop α} {f : α → Except Stop β}

theorem Blames.fails (h : Blames x) (hx : ∀ a, x ≠ .ok a) : Fails x := by
  cases hc : x with
  | error stop => exact ⟨stop, rfl, h stop hc⟩
  | ok a => exact absurd hc (hx a)

theorem Blames.bind (h : Blames x) (hf : ∀ a, Blames (f a)) : Blames (x >>= f) := by
  intro stop hs
  cases x with
  | error stop' =>
    cases hs
    exact h stop rfl
  | ok a => exact hf a stop hs

theorem Fails.bind (h : Blames x) (hf : ∀ a, Fails (f a)) : Fails (x >>= f) := by
  cases x with
  | error stop => exact ⟨stop, rfl, h stop rfl⟩
  | ok a => exact hf a

end

def Opt.isInformation : Opt → Bool
  | help | version => true
  | _ => false

theorem isInformation_of_takesValue {o : Opt} (h : o.takesValue = true) :
    o.isInformation = false := by
  cases o <;> first | rfl | cases h

theorem isInformation_of_isSwitch {o : Opt} (h : o.isSwitch = true) :
    o.isInformation = false := by
  cases o <;> first | rfl | cases h

theorem blames_choice {α : Type} [Choice α] (o : Opt) (value : String) :
    Blames (Accepted.choice o value : Except Stop α) := by
  intro stop h
  unfold Accepted.choice at h
  split at h
  · cases h
    rfl
  · split at h <;> cases h
    rfl

theorem blames_add {o : Opt} (ho : o.isInformation = false) (a : Accepted) (value : String) :
    Blames (a.add o value) := by
  have hset : Blames (Accepted.set a.arguments o value) := by
    intro stop h
    cases o with
    | repo =>
      simp only [Accepted.set] at h
      split at h <;> cases h
      rfl
    | format => exact (blames_choice _ _).bind (fun _ _ h ↦ by cases h) stop h
    | order => exact (blames_choice _ _).bind (fun _ _ h ↦ by cases h) stop h
    | sort | apiUrl | verbose | configSchema => cases h
    | help | version => cases ho
  unfold Accepted.add
  split
  · intro stop h
    cases h
    rfl
  · exact hset.bind fun _ _ h ↦ by cases h

theorem blames_addAll {options : List (Opt × String)}
    (ho : ∀ option ∈ options, option.1.isInformation = false) (a : Accepted) :
    Blames (a.addAll options) := by
  induction options generalizing a with
  | nil => exact fun _ h ↦ by cases h
  | cons option options ih =>
    obtain ⟨hs, ho⟩ := List.forall_mem_cons.1 ho
    rw [Accepted.addAll_cons]
    exact (blames_add hs a _).bind (ih ho)

theorem blames_check (b : Accepted) : Blames b.check := by
  intro stop h
  unfold Accepted.check at h
  split at h
  · cases h
    rfl
  · split at h <;> cases h
    rfl

theorem isInformation_of_mem_options {s : Spelling} {option : Opt × String}
    (h : option ∈ s.options) : option.1.isInformation = false := by
  cases s with
  | apart o name text ho =>
    rw [List.mem_singleton.1 h]
    exact isInformation_of_takesValue ho
  | joined o name text ho =>
    rw [List.mem_singleton.1 h]
    exact isInformation_of_takesValue ho
  | attached o c text ho =>
    rw [List.mem_singleton.1 h]
    exact isInformation_of_takesValue ho
  | switch o ho =>
    rw [List.mem_singleton.1 h]
    exact isInformation_of_isSwitch ho
  | group os letters hne hl =>
    obtain ⟨o, hm, rfl⟩ := List.mem_map.1 h
    exact isInformation_of_isSwitch ((List.forall₂_and_left _ _).1 hl |>.1 o hm)

theorem isInformation_of_mem_given {pieces : List Spelling} :
    ∀ option ∈ given pieces, option.1.isInformation = false := by
  intro option hm
  obtain ⟨s, -, hm⟩ := List.mem_flatMap.1 hm
  exact isInformation_of_mem_options hm

theorem blames_settle {p : Pending} (hp : p.IsReady) (a : Accepted) : Blames (p.settle a) := by
  match p, hp with
  | none, _ =>
    intro stop h
    cases h
  | some (o, some value), hp => exact blames_add (isInformation_of_takesValue hp.1) a value

theorem isReady_waiting (s : Spelling) : s.waiting.IsReady := by
  cases s with
  | apart o name text ho => exact ⟨ho, rfl⟩
  | _ => trivial

/-- What is wrong by itself is wrong after options, too. -/
theorem fails_after {pieces : List Spelling} (hs : ∀ s ∈ pieces, s.IsPlain) {rest : List String}
    (hr : ∀ b q, Pending.IsReady q → Fails (readWords b q rest)) (a : Accepted) {p : Pending}
    (hp : p.IsReady) : Fails (readWords a p (spelled pieces ++ rest)) := by
  induction pieces generalizing a p with
  | nil => exact hr a p hp
  | cons s pieces ih =>
    obtain ⟨hplain, hs⟩ := List.forall_mem_cons.1 hs
    have hc : ∀ option ∈ s.complete, option.1.isInformation = false := by
      intro option hm
      apply isInformation_of_mem_options (s := s)
      cases s with
      | apart => cases hm
      | _ => exact hm
    rw [spelled_cons, List.append_assoc, readWords_words a p _ hplain]
    apply Fails.bind (blames_settle hp a)
    intro b
    apply Fails.bind (blames_addAll hc b)
    intro b
    exact ih hs b (isReady_waiting s)

theorem fails_parse_after {pieces : List Spelling} (hs : ∀ s ∈ pieces, s.IsPlain)
    {rest : List String} (hr : ∀ b q, Pending.IsReady q → Fails (readWords b q rest)) :
    Fails (parse (spelled pieces ++ rest)) := by
  obtain ⟨stop, h, he⟩ := fails_after hs hr .none (p := none) trivial
  refine ⟨stop, ?_, he⟩
  rw [parse, h]
  rfl

def Arguments.Asks (a : Arguments) : Wish → Prop
  | .repository r => a.repository = some r
  | .style s => a.style = some s
  | .sort => a.sort = true
  | .order o => a.order = some o
  | .apiUrl url => a.apiUrl = some url
  | .verbose => a.verbose = true
  | .configSchema => a.configSchema = true

theorem Wish.asks_apply (a : Arguments) (w w' : Wish) :
    (w.apply a).Asks w' ↔ w = w' ∨ w'.opt ≠ w.opt ∧ a.Asks w' := by
  cases w <;> cases w' <;> simp [apply, opt, Arguments.Asks]

theorem asks_foldl {wishes : List Wish} (hn : (wishes.map Wish.opt).Nodup) (a : Arguments)
    (w : Wish) :
    (wishes.foldl Wish.apply a).Asks w ↔
      w ∈ wishes ∨ w.opt ∉ wishes.map Wish.opt ∧ a.Asks w := by
  induction wishes generalizing a with
  | nil => simp
  | cons w' wishes ih =>
    obtain ⟨hm, hn⟩ := List.nodup_cons.1 hn
    rw [List.foldl_cons, ih hn, Wish.asks_apply, List.mem_cons, List.map_cons, List.mem_cons,
      not_or]
    constructor
    · rintro (h | ⟨ho, rfl | ⟨hne, ha⟩⟩)
      · exact .inl (.inr h)
      · exact .inl (.inl rfl)
      · exact .inr ⟨⟨hne, ho⟩, ha⟩
    · rintro ((rfl | h) | ⟨⟨hne, ho⟩, ha⟩)
      · exact .inr ⟨hm, .inl rfl⟩
      · exact .inl h
      · exact .inr ⟨ho, .inr ⟨hne, ha⟩⟩

/-- What a command line asks for is all there is to it. -/
theorem Arguments.eq_of_asks {a a' : Arguments} (h : ∀ w, a.Asks w ↔ a'.Asks w) : a = a' := by
  obtain ⟨repository, style, sort, order, apiUrl, verbose, configSchema⟩ := a
  obtain ⟨repository', style', sort', order', apiUrl', verbose', configSchema'⟩ := a'
  obtain rfl : repository = repository' := Option.ext fun r ↦ h (.repository r)
  obtain rfl : style = style' := Option.ext fun s ↦ h (.style s)
  obtain rfl : sort = sort' := Bool.eq_iff_iff.2 (h .sort)
  obtain rfl : order = order' := Option.ext fun o ↦ h (.order o)
  obtain rfl : apiUrl = apiUrl' := Option.ext fun url ↦ h (.apiUrl url)
  obtain rfl : verbose = verbose' := Bool.eq_iff_iff.2 (h .verbose)
  obtain rfl : configSchema = configSchema' := Bool.eq_iff_iff.2 (h .configSchema)
  rfl

namespace Gives

variable {o : Opt} {text : String} {w : Wish}

theorem read (h : Gives o text w) : Wish.read o text = .ok w := by
  cases h with
  | repository h => simp only [Wish.read, h]
  | style s => cases s <;> rfl
  | order o => cases o <;> rfl
  | apiUrl | sort | verbose => rfl

theorem opt_eq (h : Gives o text w) : w.opt = o := Wish.opt_of_read h.read

/-- No value of an option with a short name begins with an equals sign. -/
theorem head?_ne (h : Gives o text w) {c : Char} (hc : o.short? = some c) :
    text.toList.head? ≠ some '=' := by
  intro he
  cases h with
  | @repository _ r h =>
    obtain ⟨s, hs⟩ := List.head?_eq_some_iff.1 he
    obtain ⟨t, ht⟩ := Text.trim_cons (c := '=') rfl s
    have hp : Repository.isPart (('=' :: t).takeWhile (· != '/')) = false := rfl
    simp only [Repository.parse?, hs, ht, Repository.ofParts?, hp] at h
    cases h
  | style s =>
    cases s <;> exact absurd he (by decide)
  | order | apiUrl => cases hc
  | sort | verbose => cases he

end Gives

def GivesAll (options : List (Opt × String)) (wishes : List Wish) : Prop :=
  List.Forall₂ (fun option w ↦ Gives option.1 option.2 w) options wishes

namespace GivesAll

variable {options : List (Opt × String)} {wishes : List Wish} (h : GivesAll options wishes)

include h

theorem exists_of_mem {option : Opt × String} (hm : option ∈ options) :
    ∃ w, Gives option.1 option.2 w := by
  induction h with
  | nil => cases hm
  | cons hg _ ih =>
    rcases List.mem_cons.1 hm with rfl | hm
    · exact ⟨_, hg⟩
    · exact ih hm

theorem map_opt : options.map (·.1) = wishes.map Wish.opt := by
  induction h with
  | nil => rfl
  | cons hg _ ih => rw [List.map_cons, List.map_cons, ih, hg.opt_eq]

theorem setAll (a : Arguments) :
    Accepted.setAll a options = .ok (wishes.foldl Wish.apply a) := by
  induction h generalizing a with
  | nil => rfl
  | cons hg _ ih =>
    rw [Accepted.setAll_cons, Wish.set_eq, hg.read]
    exact ih _

theorem configSchema_notMem : .configSchema ∉ wishes.map Wish.opt := by
  rw [← h.map_opt]
  intro hm
  obtain ⟨option, hm, ho⟩ := List.mem_map.1 hm
  obtain ⟨w, hw⟩ := h.exists_of_mem hm
  rw [ho] at hw
  cases hw

end GivesAll

theorem isPlain_of_givesAll {pieces : List Spelling} {wishes : List Wish}
    (h : GivesAll (given pieces) wishes) : ∀ s ∈ pieces, s.IsPlain := by
  intro s hm
  cases s with
  | attached o c text ho hc ht =>
    have hg : (o, text) ∈ given pieces :=
      List.mem_flatMap.2 ⟨_, hm, List.mem_singleton_self _⟩
    obtain ⟨w, hw⟩ := h.exists_of_mem hg
    exact hw.head?_ne hc
  | _ => trivial

theorem parse_spelled {pieces : List Spelling} (hs : ∀ s ∈ pieces, s.IsPlain) :
    parse (spelled pieces) = Accepted.none.addAll (given pieces) >>= Accepted.check := by
  rw [parse, readWords_spelled _ _ hs]
  rfl

theorem blames_parse {pieces : List Spelling} (hs : ∀ s ∈ pieces, s.IsPlain) :
    Blames (parse (spelled pieces)) := by
  rw [parse_spelled hs]
  exact (blames_addAll isInformation_of_mem_given _).bind blames_check

/-- Options that may be given together, unless they contradict each other. -/
def Compatible (options : List Opt) : Prop :=
  options.Nodup ∧ (.configSchema ∈ options → options.length ≤ 1)

theorem Compatible.of_perm {options options' : List Opt} (h : Compatible options)
    (hp : options'.Perm options) : Compatible options' := by
  refine ⟨hp.nodup_iff.2 h.1, fun hm ↦ ?_⟩
  rw [hp.length_eq]
  exact h.2 (hp.mem_iff.1 hm)

theorem compatible_of_parse {pieces : List Spelling} (hs : ∀ s ∈ pieces, s.IsPlain)
    {a : Arguments} (h : parse (spelled pieces) = .ok a) :
    Compatible ((given pieces).map (·.1)) := by
  rw [parse_spelled hs] at h
  obtain ⟨b, hb, hc⟩ := bind_eq_ok.1 h
  obtain ⟨hg, hn, -, -⟩ := Accepted.addAll_eq_ok.1 hb
  have hg : b.given = (given pieces).map (·.1) := hg
  obtain ⟨-, hl, -⟩ := Accepted.check_eq_ok.1 hc
  rw [hg] at hl
  exact ⟨hn, hl⟩

section Check

variable {options : List Opt} (hn : options.Nodup) (hs : .configSchema ∉ options)
  (a : Arguments)

include hn hs

theorem check_conflict (hsort : .sort ∈ options) (horder : .order ∈ options) :
    ∃ first second, Accepted.check ⟨options, a⟩ = .error (.conflict first second) := by
  have hp : (options.filter fun o ↦ o = .sort ∨ o = .order).Perm [.sort, .order] := by
    rw [List.perm_ext_iff_of_nodup (hn.filter _) (by decide)]
    intro o
    simp only [List.mem_filter, decide_eq_true_eq, List.mem_cons, List.not_mem_nil, or_false]
    constructor
    · exact And.right
    · intro h
      refine ⟨?_, h⟩
      rcases h with rfl | rfl
      · exact hsort
      · exact horder
  have hc : (options.contains Opt.configSchema && options.length > 1) = false := by simp [hs]
  obtain ⟨first, second, hf⟩ := List.length_eq_two.1 hp.length_eq
  refine ⟨first, second, ?_⟩
  simp only [Accepted.check, hc, hf]
  rfl

theorem check_ok (h : ¬ (.sort ∈ options ∧ .order ∈ options)) :
    Accepted.check ⟨options, a⟩ = .ok a := by
  refine Accepted.check_eq_ok.2 ⟨rfl, fun hm ↦ absurd hm hs, ?_⟩
  have hone (o : Opt) (ho : (options.filter fun o ↦ o = .sort ∨ o = .order) ⊆ [o]) :
      (options.filter fun o ↦ o = .sort ∨ o = .order).length ≤ 1 :=
    (List.subperm_of_subset (hn.filter _) ho).length_le
  by_cases hsort : .sort ∈ options
  · refine hone .sort fun o hm ↦ ?_
    obtain ⟨hm, ho⟩ := List.mem_filter.1 hm
    rcases of_decide_eq_true ho with rfl | rfl
    · exact List.mem_singleton_self _
    · exact absurd ⟨hsort, hm⟩ h
  · refine hone .order fun o hm ↦ ?_
    obtain ⟨hm, ho⟩ := List.mem_filter.1 hm
    rcases of_decide_eq_true ho with rfl | rfl
    · exact absurd hm hsort
    · exact List.mem_singleton_self _

end Check

theorem not_asks_none (w : Wish) : ¬ Accepted.none.arguments.Asks w := by
  cases w <;> simp [Accepted.none, Arguments.Asks]

/-- The order in which different things are asked for makes no difference. -/
theorem foldl_apply_of_perm {wishes written : List Wish} (h : written.Perm wishes)
    (hn : (wishes.map Wish.opt).Nodup) (a : Arguments) :
    written.foldl Wish.apply a = wishes.foldl Wish.apply a := by
  apply Arguments.eq_of_asks
  intro w
  have hp := h.map Wish.opt
  rw [asks_foldl hn, asks_foldl (hp.nodup_iff.2 hn), h.mem_iff, hp.mem_iff]

theorem parse_of_givesAll {pieces : List Spelling} {written : List Wish}
    (h : GivesAll (given pieces) written) (hn : (written.map Wish.opt).Nodup) :
    parse (spelled pieces) = Accepted.check
      ⟨written.map Wish.opt, written.foldl Wish.apply Accepted.none.arguments⟩ := by
  have hadd : Accepted.none.addAll (given pieces) =
      .ok ⟨written.map Wish.opt, written.foldl Wish.apply Accepted.none.arguments⟩ := by
    rw [Accepted.addAll_eq_ok, h.map_opt]
    exact ⟨rfl, hn, fun _ _ ↦ List.not_mem_nil, h.setAll _⟩
  rw [parse_spelled (isPlain_of_givesAll h), hadd]
  rfl

section Insertion

variable {pieces : List Spelling} {before after : List String}
  (hp : ∀ s ∈ pieces, s.IsPlain) (hw : before ++ after = spelled pieces)

include hp hw

/-- An option too many makes a command line wrong wherever it is put in. -/
theorem fails_insert {s : Spelling} (hs : s.IsPlain)
    (hn : ¬ Compatible ((s.options ++ given pieces).map (·.1))) :
    Fails (parse (before ++ (s.words ++ after))) := by
  rcases spelled_eq_append hw with ⟨pieces₁, pieces₂, rfl, rfl, rfl⟩ |
    ⟨pieces₁, o, name, text, ho, hname, ht, pieces₂, rfl, rfl, rfl⟩
  · obtain ⟨hp₁, hp₂⟩ := List.forall_mem_append.1 hp
    have hall : ∀ x ∈ pieces₁ ++ s :: pieces₂, x.IsPlain :=
      List.forall_mem_append.2 ⟨hp₁, List.forall_mem_cons.2 ⟨hs, hp₂⟩⟩
    have hperm : (s.options ++ given (pieces₁ ++ pieces₂)).Perm
        (given (pieces₁ ++ s :: pieces₂)) :=
      (List.perm_middle.flatMap_right Spelling.options).symm
    have hb := (blames_parse hall).fails fun a ha ↦
      hn ((compatible_of_parse hall ha).of_perm (hperm.map _))
    rwa [spelled, List.flatMap_append, List.flatMap_cons] at hb
  · rw [List.append_assoc]
    apply fails_parse_after (List.forall_mem_append.1 hp).1
    intro b q hq
    rw [List.singleton_append, hname.readWords_name ho]
    apply Fails.bind (blames_settle hq b)
    intro b
    rw [readWords_words b _ _ hs]
    exact ⟨.valueMissing o, rfl, rfl⟩

theorem fails_insert_positional {word : String} (h : IsPositional word) :
    Fails (parse (before ++ word :: after)) := by
  have hword (rest : List String) {w : String} (h : IsPositional w) (b : Accepted) (q : Pending)
      (hq : q.IsReady) : Fails (readWords b q (w :: rest)) :=
    ⟨_, readWords_positional b rest h hq, rfl⟩
  rcases spelled_eq_append hw with ⟨pieces₁, pieces₂, rfl, rfl, rfl⟩ |
    ⟨pieces₁, o, name, text, ho, hname, ht, pieces₂, rfl, rfl, rfl⟩
  · exact fails_parse_after (List.forall_mem_append.1 hp).1 (hword _ h)
  · have hall : ∀ x ∈ pieces₁ ++ [.apart o name word ho hname h], x.IsPlain :=
      List.forall_mem_append.2 ⟨(List.forall_mem_append.1 hp).1, by simp [Spelling.IsPlain]⟩
    have hf := fails_parse_after hall (hword (spelled pieces₂) ht)
    rw [spelled, List.flatMap_append, List.flatMap_singleton, List.append_assoc] at hf
    rwa [List.append_assoc]

end Insertion

theorem fails_of_repeated {pieces : List Spelling} {written : List Wish}
    (h : GivesAll (given pieces) written) (hn : ¬ (written.map Wish.opt).Nodup) :
    Fails (parse (spelled pieces)) := by
  have hs := isPlain_of_givesAll h
  refine (blames_parse hs).fails fun a ha ↦ hn ?_
  rw [← h.map_opt]
  exact (compatible_of_parse hs ha).1

theorem fails_insert_again {pieces : List Spelling} {wishes again : List Wish}
    (h : GivesAll (given pieces) wishes) {before after : List String}
    (hw : before ++ after = spelled pieces) {s : Spelling} (hs : GivesAll s.options again)
    (hm : ∃ w ∈ again, w.opt ∈ wishes.map Wish.opt) :
    Fails (parse (before ++ (s.words ++ after))) := by
  have hg : GivesAll (given [s]) again := by rwa [given, List.flatMap_singleton]
  have hsp := isPlain_of_givesAll hg s (List.mem_singleton_self s)
  refine fails_insert (isPlain_of_givesAll h) hw hsp fun hc ↦ ?_
  obtain ⟨w, hm, ho⟩ := hm
  have hn := hc.1
  rw [List.map_append, hs.map_opt, h.map_opt] at hn
  exact (List.nodup_append.1 hn).2.2 _ (List.mem_map_of_mem hm) _ ho rfl

theorem fails_insert_schema {pieces : List Spelling} {wishes : List Wish}
    (h : GivesAll (given pieces) wishes) {before after : List String}
    (hw : before ++ after = spelled pieces) (hne : wishes ≠ []) :
    Fails (parse (before ++ ("--config-schema" :: after))) := by
  refine fails_insert (s := .switch .configSchema rfl) (isPlain_of_givesAll h) hw trivial
    fun hc ↦ ?_
  have hl := hc.2 List.mem_cons_self
  rw [List.map_append, h.map_opt, List.length_append, List.length_map, List.length_map] at hl
  have hpos := List.length_pos_iff.2 hne
  have hone : (Spelling.switch .configSchema rfl).options.length = 1 := rfl
  omega

/-- Neither the order of the options nor the way in which each of them is written makes a
difference. The same options always ask for the same, unless both ways to arrange the credits are
among them, which contradict each other. An option that is given again, the schema besides anything
else or a word that is out of place make any such command line wrong. -/
theorem parse_ignores_spelling (wishes : List Wish) (hn : (wishes.map Wish.opt).Nodup) :
    let opts := wishes.map Wish.opt
    (.sort ∈ opts ∧ .order ∈ opts →
      ∀ pieces written, GivesAll (given pieces) written → written.Perm wishes →
        ∃ first second, parse (spelled pieces) = .error (.conflict first second)) ∧
    (¬ (.sort ∈ opts ∧ .order ∈ opts) → ∃ a : Arguments, (∀ w, a.Asks w ↔ w ∈ wishes) ∧
      ∀ pieces written, GivesAll (given pieces) written → written.Perm wishes →
        parse (spelled pieces) = .ok a) ∧
    (∀ pieces written, GivesAll (given pieces) written → written.Perm wishes →
      ∀ before after, before ++ after = spelled pieces →
        (∀ s again, GivesAll (Spelling.options s) again → (∃ w ∈ again, w.opt ∈ opts) →
          Fails (parse (before ++ (s.words ++ after)))) ∧
        (wishes ≠ [] → Fails (parse (before ++ ("--config-schema" :: after)))) ∧
        ∀ word, IsPositional word → Fails (parse (before ++ (word :: after)))) ∧
    ∀ pieces written, GivesAll (given pieces) written → ¬ (written.map Wish.opt).Nodup →
      Fails (parse (spelled pieces)) := by
  intro opts
  refine ⟨?_, fun hb ↦ ?_, ?_, fun pieces written ↦ fails_of_repeated⟩
  · rintro ⟨hsort, horder⟩ pieces written h hp
    have ho := hp.map Wish.opt
    have hw := ho.nodup_iff.2 hn
    rw [parse_of_givesAll h hw]
    exact check_conflict hw h.configSchema_notMem _ (ho.mem_iff.2 hsort) (ho.mem_iff.2 horder)
  · refine ⟨wishes.foldl Wish.apply Accepted.none.arguments, fun w ↦ ?_, ?_⟩
    · simp [asks_foldl hn, not_asks_none]
    · intro pieces written h hp
      have ho := hp.map Wish.opt
      have hw := ho.nodup_iff.2 hn
      rw [parse_of_givesAll h hw, foldl_apply_of_perm hp hn]
      apply check_ok hw h.configSchema_notMem
      rwa [ho.mem_iff, ho.mem_iff]
  · intro pieces written h hp before after hw
    refine ⟨fun s again hs hm ↦ ?_, fun hne ↦ ?_, fun word hword ↦ ?_⟩
    · apply fails_insert_again h hw hs
      simpa only [(hp.map Wish.opt).mem_iff] using hm
    · apply fails_insert_schema h hw
      rintro rfl
      exact hne hp.symm.eq_nil
    · exact fails_insert_positional (isPlain_of_givesAll h) hw hword

/-- Two switches in one word and a repository in two, the other way round with the repository
attached, a word between an option and its value, and two orders at once. -/
theorem parse_ignores_spelling_grouped :
    let repository : Repository := ⟨"o", "r", by decide, by decide⟩
    let wishes : List Wish := [.sort, .verbose, .repository repository]
    (wishes.map Wish.opt).Nodup ∧
    (∃ a : Arguments, (∀ w, a.Asks w ↔ w ∈ wishes) ∧ parse ["-sv", "--repo", "o/r"] = .ok a ∧
      parse ["-Ro/r", "--verbose", "-s"] = .ok a) ∧
    Fails (parse ["-sv", "--repo", "x", "o/r"]) ∧
    ∃ first second, parse ["--order=api", "-s"] = .error (.conflict first second) := by
  intro repository wishes
  have hn : (wishes.map Wish.opt).Nodup := by decide
  have hr : Gives .repo "o/r" (.repository repository) := .repository rfl
  let line : List Spelling := [.group [.sort, .verbose] ['s', 'v'] (by simp) (by simp; decide),
    .apart .repo _ "o/r" rfl .long (by simp [IsPositional])]
  let sort : Spelling := .group [.sort] ['s'] (by simp) (by simp; decide)
  let line' : List Spelling := [.attached .repo 'R' "o/r" rfl rfl (by simp),
    .switch .verbose rfl, sort]
  have hline : GivesAll (given line) wishes := .cons .sort (.cons .verbose (.cons hr .nil))
  have hline' : GivesAll (given line') [.repository repository, .verbose, .sort] :=
    .cons hr (.cons .verbose (.cons .sort .nil))
  have h := parse_ignores_spelling wishes hn
  obtain ⟨a, ha, hok⟩ := h.2.1 (by decide)
  have hp : List.Perm [.repository repository, .verbose, .sort] wishes :=
    List.reverse_perm wishes
  refine ⟨hn, ⟨a, ha, hok line _ hline (.refl _), hok line' _ hline' hp⟩, ?_, ?_⟩
  · exact (h.2.2.1 line _ hline (.refl _) ["-sv", "--repo"] ["o/r"] rfl).2.2 "x"
      (by simp [IsPositional])
  · exact (parse_ignores_spelling [.order .listed, .sort] (by decide)).1 (by decide)
      [.joined .order _ "api" rfl .long, sort] _ (.cons (.order .listed) (.cons .sort .nil))
      (.refl _)

end CommandLine

end CreditRoll
