import CreditRoll.Collection.Roster
import CreditRoll.Proofs.FirstListed
import Mathlib.Data.List.Nodup

namespace CreditRoll.Collection

variable {σ τ : Type}

/-- What the answers of a directory depend on, apart from the steps it keeps a record of. -/
structure View (d : Directory σ) (τ : Type) where
  view : σ → τ
  look : String → τ → Except Github.Error Profile × τ
  view_note : ∀ event s, view (d.note event s) = view s
  look_view : ∀ login s,
    look login (view s) = ((d.profile login s).1, view (d.profile login s).2)

def lookUp (look : String → τ → Except Github.Error Profile × τ) :
    List Entry → τ → Except Github.Error (List Credit) × τ
  | [], t => (.ok [], t)
  | entry :: entries, t =>
    match look entry.login t with
    | (.error e, t) => (.error e, t)
    | (.ok profile, t) =>
      let (credits, t) := lookUp look entries t
      (credits.map (Credit.ofProfile entry profile :: ·), t)

/-- Of an entry that is a duplicate only the log can tell. -/
theorem resolve_view {d : Directory σ} (V : View d τ) (seen : List String) (entries : List Entry)
    (s : σ) :
    ((resolve d seen entries s).1, V.view (resolve d seen entries s).2) =
      lookUp V.look (fresh seen entries) (V.view s) := by
  induction entries generalizing seen s with
  | nil => rfl
  | cons entry entries ih =>
    by_cases hm : entry.login ∈ seen
    · have hi := ih seen (d.note (.duplicateSkipped entry.login) s)
      rw [V.view_note] at hi
      simpa only [resolve, fresh, if_pos hm, List.contains_iff_mem.2 hm, if_true] using hi
    · have hc : seen.contains entry.login = false := by simpa using hm
      simp only [resolve, fresh, if_neg hm, hc, lookUp, V.look_view, Bool.false_eq_true, if_false]
      rcases d.profile entry.login s with ⟨e | profile, s⟩
      · rfl
      · have hi := ih (entry.login :: seen) (d.note (.resolved (.ofProfile entry profile)) s)
        rw [V.view_note] at hi
        simp only [← hi]

theorem collect_view {d : Directory σ} (V : View d τ) {repository : Repository} (order : Order)
    {s s' : σ} {entries : List Entry}
    (h : d.list repository.owner repository.name s = (.ok entries, s')) :
    ((collect d repository order s).1, V.view (collect d repository order s).2) =
      let (credits, t) := lookUp V.look (firstListed entries) (V.view s')
      (credits.map order.arrange, t) := by
  have hr := resolve_view V [] entries (d.note (.listed repository.path entries.length) s')
  rw [V.view_note] at hr
  simp only [collect, h, firstListed_eq_fresh, ← hr]

/-- Two directories that list the same entries and agree on their profiles make the same credits. -/
theorem collect_agrees {σ' τ' : Type} {d : Directory σ} {d' : Directory σ'} (V : View d τ)
    (V' : View d' τ') {repository : Repository} (order : Order) {s s₁ : σ} {s' s₁' : σ'}
    {entries : List Entry}
    (h : d.list repository.owner repository.name s = (.ok entries, s₁))
    (h' : d'.list repository.owner repository.name s' = (.ok entries, s₁'))
    (hl : (lookUp V.look (firstListed entries) (V.view s₁)).1 =
      (lookUp V'.look (firstListed entries) (V'.view s₁')).1) :
    (collect d repository order s).1 = (collect d' repository order s').1 := by
  have hv := congrArg Prod.fst (collect_view V order h)
  have hv' := congrArg Prod.fst (collect_view V' order h')
  exact hv.trans ((congrArg (·.map order.arrange) hl).trans hv'.symm)

def answering (listing : Except Github.Error (List Entry))
    (profile : String → Except Github.Error Profile) : Directory Roster.Record where
  list owner name r := (listing, r.called (.list (owner ++ "/" ++ name)))
  profile login r := (profile login, r.called (.user login))
  note := Roster.Record.note

variable (profile : String → Except Github.Error Profile)

def ask (login : String) (calls : List Call) : Except Github.Error Profile × List Call :=
  (profile login, calls ++ [.user login])

def answeringView (listing : Except Github.Error (List Entry)) :
    View (answering listing profile) (List Call) where
  view := Roster.Record.calls
  look := ask profile
  view_note _ _ := rfl
  look_view _ _ := rfl

def Resolved (entry : Entry) (credit : Credit) : Prop :=
  ∃ p, profile entry.login = .ok p ∧ credit = Credit.ofProfile entry p

theorem lookUp_answering (entries : List Entry) (calls : List Call) :
    (∃ before entry after e, entries = before ++ entry :: after ∧
      (∀ x ∈ before, ∃ p, profile x.login = .ok p) ∧ profile entry.login = .error e ∧
      lookUp (ask profile) entries calls =
        (.error e, calls ++ (before ++ [entry]).map (.user ·.login))) ∨
    ∃ credits, List.Forall₂ (Resolved profile) entries credits ∧
      lookUp (ask profile) entries calls =
        (.ok credits, calls ++ entries.map (.user ·.login)) := by
  induction entries generalizing calls with
  | nil => exact .inr ⟨[], .nil, by simp [lookUp]⟩
  | cons entry entries ih =>
    cases hp : profile entry.login with
    | error e =>
      exact .inl ⟨[], entry, entries, e, rfl, by simp, hp, by simp [lookUp, ask, hp]⟩
    | ok p =>
      rcases ih (calls ++ [.user entry.login]) with
        ⟨before, next, after, e, rfl, hb, he, hl⟩ | ⟨credits, hr, hl⟩
      · refine .inl ⟨entry :: before, next, after, e, rfl, ?_, he, ?_⟩
        · exact List.forall_mem_cons.2 ⟨⟨p, hp⟩, hb⟩
        · simp [lookUp, ask, hp, hl, Except.map]
      · refine .inr ⟨.ofProfile entry p :: credits, .cons ⟨p, hp, rfl⟩ hr, ?_⟩
        simp [lookUp, ask, hp, hl, Except.map]

theorem arrange_perm (order : Order) (credits : List Credit) :
    (order.arrange credits).Perm credits := by
  cases order with
  | listed => exact .refl _
  | byName => exact List.mergeSort_perm _ _

def MadeOf (entry : Entry) (credit : Credit) : Prop :=
  ∃ p, credit = Credit.ofProfile entry p

theorem Resolved.madeOf {entry : Entry} {credit : Credit} (h : Resolved profile entry credit) :
    MadeOf entry credit := by
  obtain ⟨p, -, rfl⟩ := h
  exact ⟨p, rfl⟩

theorem map_login_of_madeOf {entries : List Entry} {credits : List Credit}
    (h : List.Forall₂ MadeOf entries credits) :
    credits.map (·.login) = entries.map (·.login) := by
  induction h with
  | nil => rfl
  | cons hr _ ih =>
    obtain ⟨p, rfl⟩ := hr
    simp only [List.map_cons, ih, Credit.ofProfile]

theorem exists_of_forall₂ {R : Entry → Credit → Prop} {entries : List Entry}
    {credits : List Credit} (h : List.Forall₂ R entries credits) {credit : Credit}
    (hc : credit ∈ credits) : ∃ entry ∈ entries, R entry credit := by
  induction h with
  | nil => cases hc
  | cons hr _ ih =>
    rcases List.mem_cons.1 hc with rfl | hc
    · exact ⟨_, List.mem_cons_self, hr⟩
    · obtain ⟨entry, hm, hr⟩ := ih hc
      exact ⟨entry, List.mem_cons_of_mem _ hm, hr⟩

theorem nodup_calls (repository : String) {logins : List Entry}
    (h : (logins.map (·.login)).Nodup) :
    (Call.list repository :: logins.map (Call.user ·.login)).Nodup := by
  have hu := h.map fun _ _ he ↦ Call.user.inj he
  rw [List.map_map] at hu
  exact List.nodup_cons.2 ⟨by simp, hu⟩

theorem nodup_firstListed (entries : List Entry) :
    ((firstListed entries).map (·.login)).Nodup :=
  firstListed_eq_fresh entries ▸ nodup_fresh [] entries

theorem arrange_resolved {entries : List Entry} {credits : List Credit} (order : Order)
    (h : List.Forall₂ (Resolved profile) (firstListed entries) credits) :
    ((order.arrange credits).map (·.login)).Nodup ∧
    (∀ login, login ∈ (order.arrange credits).map (·.login) ↔ login ∈ entries.map (·.login)) ∧
    ∀ credit ∈ order.arrange credits, ∃ entry,
      entries.find? (·.login == credit.login) = some entry ∧
      credit.contributions = entry.contributions := by
  have hp := (arrange_perm order credits).map (·.login)
  have hm := map_login_of_madeOf (h.imp fun _ _ hr ↦ hr.madeOf)
  refine ⟨?_, fun login ↦ ?_, fun credit hc ↦ ?_⟩
  · rw [hp.nodup_iff, hm]
    exact nodup_firstListed entries
  · rw [hp.mem_iff, hm, firstListed_eq_fresh, mem_logins_fresh]
    simp
  · obtain ⟨entry, hd, p, -, rfl⟩ :=
      exists_of_forall₂ h ((arrange_perm order credits).mem_iff.1 hc)
    rw [firstListed_eq_fresh] at hd
    exact ⟨entry, find?_of_mem_fresh hd, rfl⟩

/-- A collection lists the repository once and then looks up every login once, in the order in which
the logins are first listed, up to the first failure, which is then all that comes of it. Without a
failure there is one credit for each login listed, made of the first entry that lists it. -/
theorem collect_first_listed (listing : Except Github.Error (List Entry))
    (repository : Repository) (order : Order) :
    let out := collect (answering listing profile) repository order ⟨[], []⟩
    out.2.calls.Nodup ∧
    ((∃ e, listing = .error e ∧ out.1 = .error e ∧ out.2.calls = [.list repository.path]) ∨
      ∃ entries, listing = .ok entries ∧
        ((∃ before entry after e, firstListed entries = before ++ entry :: after ∧
            (∀ x ∈ before, ∃ p, profile x.login = .ok p) ∧ profile entry.login = .error e ∧
            out.1 = .error e ∧
            out.2.calls = .list repository.path :: (before ++ [entry]).map (.user ·.login)) ∨
          ∃ credits, List.Forall₂ (Resolved profile) (firstListed entries) credits ∧
            out.1 = .ok (order.arrange credits) ∧
            out.2.calls = .list repository.path :: (firstListed entries).map (.user ·.login) ∧
            ((order.arrange credits).map (·.login)).Nodup ∧
            (∀ login, login ∈ (order.arrange credits).map (·.login) ↔
              login ∈ entries.map (·.login)) ∧
            ∀ credit ∈ order.arrange credits, ∃ entry,
              entries.find? (·.login == credit.login) = some entry ∧
              credit.contributions = entry.contributions)) := by
  intro out
  cases listing with
  | error e => exact ⟨List.nodup_singleton _, .inl ⟨e, rfl, rfl, rfl⟩⟩
  | ok entries =>
    have hv : (out.1, out.2.calls) =
        ((lookUp (ask profile) (firstListed entries) [.list repository.path]).1.map order.arrange,
          (lookUp (ask profile) (firstListed entries) [.list repository.path]).2) :=
      collect_view (answeringView profile (.ok entries)) order rfl
    obtain ⟨h₁, h₂⟩ := Prod.mk.inj hv
    have hs := nodup_firstListed entries
    rcases lookUp_answering profile (firstListed entries) [.list repository.path] with
      ⟨before, entry, after, e, hd, hb, he, hl⟩ | ⟨credits, hr, hl⟩
    · rw [hl] at h₁ h₂
      rw [hd, List.append_cons, List.map_append] at hs
      refine ⟨?_, .inr ⟨entries, rfl, .inl ⟨before, entry, after, e, hd, hb, he, h₁, h₂⟩⟩⟩
      rw [h₂]
      exact nodup_calls _ hs.of_append_left
    · rw [hl] at h₁ h₂
      exact ⟨h₂ ▸ nodup_calls _ hs,
        .inr ⟨entries, rfl, .inr ⟨credits, hr, h₁, h₂, arrange_resolved profile order hr⟩⟩⟩

end CreditRoll.Collection
