import CreditRoll.Credit.Report
import CreditRoll.Proofs.Collection
import CreditRoll.Proofs.Wire

namespace CreditRoll

def Style.shown : Style → Credit → List String
  | .link, c => [c.displayName, c.url]
  | .role, c => [c.displayName, c.login]
  | .plain, c => [c.displayName]

namespace Credit

theorem nameFor_eq_empty_iff (entry : Entry) (profile : Profile) :
    nameFor entry profile = "" ↔
      entry.login = "" ∧ ∀ name ∈ profile.name, name.isAllBlank = true := by
  unfold nameFor
  cases profile.name with
  | none => simp
  | some name =>
    by_cases hb : name.isAllBlank = true
    · simp [hb]
    · have hn : name ≠ "" := by
        rintro rfl
        exact hb rfl
      simp [hb, hn]

theorem urlFor_eq_empty_iff (entry : Entry) (profile : Profile) :
    urlFor entry profile = "" ↔ profile.url = "" ∧ entry.url = some "" := by
  unfold urlFor
  by_cases hp : profile.url = ""
  · cases entry.url with
    | none => simp [hp]
    | some url => simp [hp]
  · have he : profile.url.isEmpty = false := by simpa using hp
    simp [he, hp]

end Credit

namespace Collection

variable {σ : Type}

def Given (d : Directory σ) (entry : Entry) (credit : Credit) : Prop :=
  ∃ p s, (d.profile entry.login s).1 = .ok p ∧ credit = Credit.ofProfile entry p

theorem resolve_given (d : Directory σ) {seen : List String} {entries : List Entry} {s : σ}
    {credits : List Credit} (h : (resolve d seen entries s).1 = .ok credits) :
    List.Forall₂ (Given d) (fresh seen entries) credits := by
  induction entries generalizing seen s credits with
  | nil =>
    cases h
    exact .nil
  | cons entry entries ih =>
    by_cases hm : entry.login ∈ seen
    · simp only [resolve, List.contains_iff_mem.2 hm, if_true] at h
      rw [fresh, if_pos hm]
      exact ih h
    · have hc : seen.contains entry.login = false := by simpa using hm
      simp only [resolve, hc, Bool.false_eq_true, if_false] at h
      rw [fresh, if_neg hm]
      rcases hp : d.profile entry.login s with ⟨e | profile, s'⟩
      · simp [hp] at h
      · simp only [hp] at h
        rcases hr : resolve d (entry.login :: seen) entries
            (d.note (.resolved (.ofProfile entry profile)) s') with ⟨e | more, s''⟩
        · rw [hr] at h
          cases h
        · rw [hr] at h
          cases h
          exact .cons ⟨profile, s, congrArg Prod.fst hp, rfl⟩ (ih (congrArg Prod.fst hr))

/-- A collection that succeeds has a credit for each entry that lists its login first. -/
theorem collect_given {d : Directory σ} {repository : Repository} {order : Order} {s : σ}
    {credits : List Credit} (h : (collect d repository order s).1 = .ok credits) :
    ∃ entries told, (d.list repository.owner repository.name s).1 = .ok entries ∧
      List.Forall₂ (Given d) (firstListed entries) told ∧ credits = order.arrange told := by
  rcases hl : d.list repository.owner repository.name s with ⟨e | entries, s'⟩
  · simp [collect, hl] at h
  · simp only [collect, hl] at h
    rcases hr : resolve d [] entries (d.note (.listed repository.path entries.length) s') with
      ⟨e | told, s''⟩
    · rw [hr] at h
      cases h
    · rw [hr] at h
      cases h
      have hg := resolve_given d (congrArg Prod.fst hr)
      rw [← firstListed_eq_fresh] at hg
      exact ⟨entries, told, rfl, hg, rfl⟩

theorem exists_given {d : Directory σ} {entries : List Entry} {told : List Credit} {order : Order}
    (h : List.Forall₂ (Given d) (firstListed entries) told) {credit : Credit}
    (hc : credit ∈ order.arrange told) : ∃ entry ∈ firstListed entries, Given d entry credit :=
  exists_of_forall₂ h ((arrange_perm order told).mem_iff.1 hc)

/-- A credit is without a name only if its login is empty and its profile has no name, and without
an address only if its profile and its entry both give an empty one. Where the listing has neither
an empty login nor an empty address, no line shows an empty text. -/
theorem collect_blank_iff {d : Directory σ} {repository : Repository} {order : Order} {s : σ}
    {credits : List Credit} (h : (collect d repository order s).1 = .ok credits) :
    ∃ entries, (d.list repository.owner repository.name s).1 = .ok entries ∧
      (∀ credit ∈ credits, ∃ entry ∈ firstListed entries, ∃ p t,
        (d.profile entry.login t).1 = .ok p ∧ credit = .ofProfile entry p ∧
        (credit.displayName = "" ↔
          entry.login = "" ∧ ∀ name ∈ p.name, name.isAllBlank = true) ∧
        (credit.url = "" ↔ p.url = "" ∧ entry.url = some "")) ∧
      ((∀ entry ∈ entries, entry.login ≠ "") → ∀ credit ∈ credits, credit.displayName ≠ "") ∧
      ((∀ entry ∈ entries, entry.url ≠ some "") → ∀ credit ∈ credits, credit.url ≠ "") ∧
      ((∀ entry ∈ entries, entry.login ≠ "" ∧ entry.url ≠ some "") →
        ∀ style : Style, ∀ credit ∈ credits, "" ∉ style.shown credit) := by
  obtain ⟨entries, told, hl, hg, rfl⟩ := collect_given h
  have hname (hs : ∀ entry ∈ entries, entry.login ≠ "") :
      ∀ credit ∈ order.arrange told, credit.displayName ≠ "" ∧ credit.login ≠ "" := by
    intro credit hc
    obtain ⟨entry, hm, p, t, -, rfl⟩ := exists_given hg hc
    have hne := hs entry (mem_of_mem_firstListed hm)
    exact ⟨fun he ↦ hne ((Credit.nameFor_eq_empty_iff entry p).1 he).1, hne⟩
  have hurl (hs : ∀ entry ∈ entries, entry.url ≠ some "") :
      ∀ credit ∈ order.arrange told, credit.url ≠ "" := by
    intro credit hc
    obtain ⟨entry, hm, p, t, -, rfl⟩ := exists_given hg hc
    intro he
    exact hs entry (mem_of_mem_firstListed hm) ((Credit.urlFor_eq_empty_iff entry p).1 he).2
  refine ⟨entries, hl, fun credit hc ↦ ?_, fun hs credit hc ↦ (hname hs credit hc).1, hurl, ?_⟩
  · obtain ⟨entry, hm, p, t, hp, rfl⟩ := exists_given hg hc
    exact ⟨entry, hm, p, t, hp, rfl, Credit.nameFor_eq_empty_iff entry p,
      Credit.urlFor_eq_empty_iff entry p⟩
  · intro hs style credit hc
    obtain ⟨hn, hlogin⟩ := hname (fun entry he ↦ (hs entry he).1) credit hc
    have hu := hurl (fun entry he ↦ (hs entry he).2) credit hc
    cases style <;> simp [Style.shown, hn.symm, hlogin.symm, hu.symm]

/-- A blank name and an empty address are passed over. -/
theorem collect_blank_iff_passed_over :
    let repository : Repository := ⟨"o", "r", by decide, by decide⟩
    let entries : List Entry := [⟨"mona", 2, some "m"⟩, ⟨"hubot", 1, none⟩]
    let d := answering (.ok entries) fun _ ↦ .ok ⟨some " \t", ""⟩
    let credits : List Credit :=
      [⟨"mona", "mona", "m", 2⟩, ⟨"hubot", "hubot", "https://github.com/hubot", 1⟩]
    (collect d repository .listed ⟨[], []⟩).1 = .ok credits ∧
      ∀ style : Style, ∀ credit ∈ credits, "" ∉ style.shown credit := by
  intro repository entries d credits
  have hc : (collect d repository .listed ⟨[], []⟩).1 = .ok credits := rfl
  obtain ⟨listed, hl, -, -, -, hs⟩ := collect_blank_iff hc
  cases hl
  exact ⟨hc, hs (by decide)⟩

/-- The service can send an empty login and an empty address, and they are shown. -/
theorem collect_blank_credits :
    let repository : Repository := ⟨"o", "r", by decide, by decide⟩
    let entries : List Entry := [⟨"", 1, none⟩, ⟨"mona", 2, some ""⟩]
    let profile : Profile := ⟨none, ""⟩
    let credits : List Credit := [⟨"", "", "https://github.com/", 1⟩, ⟨"mona", "mona", "", 2⟩]
    Github.Wire.page? (Text.Utf8.encode (Json.write (.array (entries.map Entry.json)))) =
        some entries ∧
      Github.Wire.profile? (Text.Utf8.encode (Json.write profile.json)) = some profile ∧
      (collect (answering (.ok entries) fun _ ↦ .ok profile) repository .listed ⟨[], []⟩).1 =
        .ok credits ∧
      Report.text .link credits = "* ` <https://github.com/>`_\n* `mona <>`_\n" := by
  intro repository entries profile credits
  refine ⟨Github.Wire.page?_encode (Json.isText_write ?_) (by decide),
    Github.Wire.profile?_encode (Json.isText_write profile.proper_json), rfl, rfl⟩
  exact .array (List.forall_mem_map.2 fun entry _ ↦ entry.proper_json)

end Collection

end CreditRoll
