import CreditRoll.Proofs.Blanks
import CreditRoll.Proofs.Path
import CreditRoll.Proofs.Precedence

namespace CreditRoll.Repository

open CommandLine Github Http Url Address Segment

structure IsName (part : String) : Prop where
  nonempty : part ≠ ""
  written : ∀ c ∈ part.toList, c.isAlphanum = true ∨ c ∈ ['-', '_', '.']
  notDots : ¬ ∀ c ∈ part.toList, c = '.'

/-- A text that is the name of a repository with blanks around it. -/
structure Denotes (text owner name : String) : Prop where
  isOwner : IsName owner
  isName : IsName name
  padded : ∃ before after : String, before.isAllBlank = true ∧ after.isAllBlank = true ∧
    text = before ++ (owner ++ "/" ++ name) ++ after

theorem isPart_iff {part : String} : isPart part.toList = true ↔ IsName part := by
  have hw (c : Char) : isPartChar c = true ↔ c.isAlphanum = true ∨ c ∈ ['-', '_', '.'] := by
    simp [isPartChar, or_assoc]
  simp only [isPart, Bool.and_eq_true, List.all_eq_true, List.any_eq_true, hw, bne_iff_ne]
  constructor
  · rintro ⟨hc, c, hm, hd⟩
    refine ⟨?_, hc, fun h ↦ hd (h c hm)⟩
    rintro rfl
    exact List.not_mem_nil hm
  · intro h
    refine ⟨h.written, ?_⟩
    by_contra hd
    exact h.notDots fun c hc ↦ by_contra fun hn ↦ hd ⟨c, hc, hn⟩

variable {part : String}

theorem IsName.stands (h : IsName part) {c : Char} (hc : c ∈ part.toList) :
    stands c = true := by
  have hk : ∀ n < 0x80, 0x30 ≤ n ∧ n ≤ 0x39 ∨ 0x41 ≤ n ∧ n ≤ 0x5A ∨ 0x61 ≤ n ∧ n ≤ 0x7A →
      keeps (UInt8.ofNat n) = true := by decide +kernel
  rcases h.written c hc with ha | hm
  · have hr := Text.toNat_of_isAlphanum ha
    have hn : c.toNat < 0x80 := by omega
    simpa [Segment.stands, hn] using hk c.toNat hn hr
  · have hs : ∀ c ∈ ['-', '_', '.'], Segment.stands c = true :=
      List.all_iff_forall_prop.1 (by decide)
    exact hs c hm

theorem IsName.ne_slash (h : IsName part) {c : Char} (hc : c ∈ part.toList) : c ≠ '/' := by
  rintro rfl
  exact Bool.noConfusion (h.stands hc)

theorem IsName.not_blank (h : IsName part) {c : Char} (hc : c ∈ part.toList) :
    Text.isBlank c = false := by
  have hv := visible_of_stands (h.stands hc)
  exact Text.isBlank_of_visible ⟨hv.1, Nat.le_of_lt_succ hv.2⟩

theorem IsName.encode_eq (h : IsName part) : encode part = part :=
  encode_eq_self fun _ ↦ h.stands

theorem IsName.isStep (h : IsName part) : IsStep part.toList := by
  rw [← h.encode_eq, isStep_encode_iff]
  refine ⟨fun hb ↦ ?_, ?_, ?_⟩
  · have hs := h.written _ hb
    revert hs
    decide
  · rintro rfl
    exact h.notDots (by simp)
  · rintro rfl
    exact h.notDots (by simp)

variable {text owner name : String}

theorem toList_joined (owner name : String) :
    (owner ++ "/" ++ name).toList = owner.toList ++ '/' :: name.toList := by
  simp

theorem trim_joined (ho : IsName owner) (hn : IsName name) :
    Text.trim (owner ++ "/" ++ name).toList = owner.toList ++ '/' :: name.toList := by
  have hb : ∀ c ∈ owner.toList ++ '/' :: name.toList, Text.isBlank c = false := by
    intro c hc
    rcases List.mem_append.1 hc with hc | hc
    · exact ho.not_blank hc
    · rcases List.mem_cons.1 hc with rfl | hc
      · rfl
      · exact hn.not_blank hc
  rw [toList_joined]
  apply Text.strip_eq_self
  · intro c hc
    exact hb c (List.mem_of_mem_head? hc)
  · intro c hc
    exact hb c (List.mem_of_getLast? hc)

theorem Denotes.trim_eq (h : Denotes text owner name) :
    Text.trim text.toList = owner.toList ++ '/' :: name.toList := by
  obtain ⟨before, after, hb, ha, rfl⟩ := h.padded
  rw [String.toList_append, String.toList_append, Text.trim,
    Text.strip_append (List.all_eq_true.1 hb) (List.all_eq_true.1 ha)]
  exact trim_joined h.isOwner h.isName

/-- No part holds a slash, so the first slash ends the owner. -/
theorem split_joined (h : IsName owner) (rest : List Char) :
    (owner.toList ++ '/' :: rest).takeWhile (· != '/') = owner.toList ∧
      (owner.toList ++ '/' :: rest).dropWhile (· != '/') = '/' :: rest := by
  have hn : ∀ c ∈ owner.toList, (c != '/') = true := fun c hc ↦ bne_iff_ne.2 (h.ne_slash hc)
  rw [List.takeWhile_append_of_pos hn, List.dropWhile_append_of_pos hn]
  simp

theorem denotes_of_trim (ho : IsName owner) (hn : IsName name)
    (ht : Text.trim text.toList = owner.toList ++ '/' :: name.toList) :
    Denotes text owner name := by
  obtain ⟨w, w', hs, hw, hw'⟩ := Text.exists_strip Text.isBlank text.toList
  refine ⟨ho, hn, String.ofList w, String.ofList w', ?_, ?_, ?_⟩
  · rw [String.isAllBlank, String.toList_ofList]
    exact List.all_eq_true.2 hw
  · rw [String.isAllBlank, String.toList_ofList]
    exact List.all_eq_true.2 hw'
  · rw [← String.toList_inj, String.toList_append, String.toList_append, toList_joined,
      String.toList_ofList, String.toList_ofList, ← ht]
    exact hs

theorem parse?_eq_some_iff {r : Repository} :
    parse? text = some r ↔ Denotes text r.owner r.name := by
  constructor
  · intro h
    simp only [parse?, ofParts?, Option.dite_none_right_eq_some, Option.some.injEq] at h
    obtain ⟨⟨ho, hn⟩, rfl⟩ := h
    rw [← String.toList_ofList (l := (Text.trim text.toList).takeWhile _)] at ho
    rw [← String.toList_ofList (l := ((Text.trim text.toList).dropWhile _).tail)] at hn
    refine denotes_of_trim (isPart_iff.1 ho) (isPart_iff.1 hn) ?_
    rw [String.toList_ofList] at hn ⊢
    rw [String.toList_ofList]
    rcases hd : (Text.trim text.toList).dropWhile (· != '/') with _ | ⟨c, rest⟩
    · rw [hd] at hn
      cases hn
    · have hc := List.head?_dropWhile_not (· != '/') (Text.trim text.toList)
      rw [hd] at hc
      obtain rfl : c = '/' := by simpa using hc
      rw [List.tail_cons, ← hd, List.takeWhile_append_dropWhile]
  · intro h
    have hs := split_joined h.isOwner r.name.toList
    rw [parse?, h.trim_eq, hs.1, hs.2, List.tail_cons, ofParts?,
      dif_pos ⟨r.owner_valid, r.name_valid⟩]
    simp only [String.ofList_toList]

theorem Denotes.parts_eq {owner' name' : String} (h : Denotes text owner name)
    (h' : Denotes text owner' name') : owner' = owner ∧ name' = name := by
  have hj := h'.trim_eq.symm.trans h.trim_eq
  have hs := split_joined h.isOwner name.toList
  have hs' := split_joined h'.isOwner name'.toList
  rw [hj] at hs'
  constructor
  · exact String.toList_inj.1 (hs'.1.symm.trans hs.1)
  · exact String.toList_inj.1 (List.cons.inj (hs'.2.symm.trans hs.2)).2

theorem isName_parts (r : Repository) : IsName r.owner ∧ IsName r.name :=
  ⟨isPart_iff.1 r.owner_valid, isPart_iff.1 r.name_valid⟩

theorem parse?_path (r : Repository) : parse? r.path = some r := by
  obtain ⟨ho, hn⟩ := r.isName_parts
  apply parse?_eq_some_iff.2
  exact denotes_of_trim ho hn (trim_joined ho hn)

theorem list_parts [Idna] [Library] (r : Repository) (c : Client) (session : Session) :
    c.list r.owner r.name session = c.listFrom (c.base ++ "/repos/" ++ r.owner ++ "/" ++ r.name ++
      "/contributors?per_page=100") session := by
  obtain ⟨ho, hn⟩ := r.isName_parts
  rw [Client.list, Client.listingUrl_eq, ho.encode_eq, hn.encode_eq]

/-- The command line is not read further, since the first word is refused. -/
theorem parse_refused (h : parse? text = none) (words : List String) :
    CommandLine.parse (Opt.repo.word text :: words) = .error (.malformedRepository text) := by
  have hadd : Accepted.none.add .repo text = .error (.malformedRepository text) := by
    simp only [Accepted.add, Accepted.set, h]
    rfl
  rw [CommandLine.parse, readWords_word .none none rfl]
  change (Accepted.none.add .repo text >>= _) >>= _ = _
  rw [hadd]
  rfl

/-- A text is taken for a repository if and only if it is the name of one with blanks around it. The
parts are then what the text says, go into addresses as they stand and are steps down a path. A text
that is refused is repeated with its blanks. -/
theorem parse_reads_names [Idna] [Library] (s : String) :
    ((parse? s).isSome = true ↔ ∃ owner name, Denotes s owner name) ∧
    (∀ r, parse? s = some r →
      (∀ owner name, Denotes s owner name ↔ owner = r.owner ∧ name = r.name) ∧
      r.path = s.trimBlank ∧ parse? r.path = some r ∧
      (∀ part ∈ [r.owner, r.name], encode part = part ∧ IsStep part.toList) ∧
      ∀ (c : Client) (session : Session), c.list r.owner r.name session =
        c.listFrom (c.base ++ "/repos/" ++ r.owner ++ "/" ++ r.name ++
          "/contributors?per_page=100") session) ∧
    (parse? s = none →
      (∀ words, CommandLine.parse (Opt.repo.word s :: words) = .error (.malformedRepository s)) ∧
      ∀ (a : Arguments) (c : Config), a.repository = none → c.repository = s →
        Settings.resolve a c = .error (.invalidRepository s)) := by
  refine ⟨?_, fun r hr ↦ ?_, fun hs ↦ ⟨parse_refused hs, fun a c ha hc ↦ ?_⟩⟩
  · rw [Option.isSome_iff_exists]
    constructor
    · rintro ⟨r, hr⟩
      exact ⟨r.owner, r.name, parse?_eq_some_iff.1 hr⟩
    · rintro ⟨owner, name, h⟩
      exact ⟨⟨owner, name, isPart_iff.2 h.isOwner, isPart_iff.2 h.isName⟩, parse?_eq_some_iff.2 h⟩
  · have hd := parse?_eq_some_iff.1 hr
    refine ⟨fun owner name ↦ ⟨hd.parts_eq, ?_⟩, ?_, r.parse?_path, fun part hp ↦ ?_, r.list_parts⟩
    · rintro ⟨rfl, rfl⟩
      exact hd
    · rw [String.trimBlank, hd.trim_eq, ← toList_joined, String.ofList_toList, path]
    · have h : IsName part := by
        simp only [List.mem_cons, List.not_mem_nil, or_false] at hp
        rcases hp with rfl | rfl
        · exact hd.isOwner
        · exact hd.isName
      exact ⟨h.encode_eq, h.isStep⟩
  · subst hc
    exact Settings.resolve_eq_error.2 ⟨ha, hs, rfl⟩

theorem parse_reads_names_padded :
    let r : Repository := ⟨"octo-org", "my_repo.rs", by decide, by decide⟩
    (parse? "\u3000octo-org/my_repo.rs\n" = some r ∧ r.path = "octo-org/my_repo.rs" ∧
      IsStep r.name.toList) ∧
    parse? "../repo " = none ∧
      CommandLine.parse [Opt.repo.word "../repo "] = .error (.malformedRepository "../repo ") := by
  intro r
  have hr : parse? "\u3000octo-org/my_repo.rs\n" = some r := by decide
  have hn : parse? "../repo " = none := by decide
  obtain ⟨-, hread, -⟩ := parse_reads_names "\u3000octo-org/my_repo.rs\n"
  obtain ⟨-, hpath, -, hsteps, -⟩ := hread r hr
  obtain ⟨-, -, hfail⟩ := parse_reads_names "../repo "
  have hs : IsStep r.name.toList := (hsteps r.name (by simp)).2
  exact ⟨⟨hr, hpath.trans (by decide), hs⟩, hn, (hfail hn).1 []⟩

end CreditRoll.Repository
