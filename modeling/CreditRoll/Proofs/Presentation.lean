import CreditRoll.Program
import CreditRoll.Proofs.Collection
import CreditRoll.Proofs.Retelling

namespace CreditRoll

inductive Agree {ε α β : Type} (R : α → β → Prop) : Except ε α → Except ε β → Prop
  | error (e : ε) : Agree R (.error e) (.error e)
  | ok {a : α} {b : β} (h : R a b) : Agree R (.ok a) (.ok b)

structure Rearranged (order order' : Order) (credits credits' : List Credit) : Prop where
  perm : credits'.Perm credits
  same : order' = order → credits' = credits
  lines : ∀ style, (Report.lines style credits').Perm (Report.lines style credits)

namespace Collection

variable {σ : Type}

/-- The order has a say in how the credits are arranged, and in nothing else. -/
theorem collect_arranged (d : Directory σ) (repository : Repository) (order : Order) (s : σ) :
    collect d repository order s =
      Prod.map (Except.map order.arrange) id (collect d repository .listed s) := by
  simp only [collect]
  rcases d.list repository.owner repository.name s with ⟨e | entries, s⟩
  · rfl
  · simp only [Prod.map, id]
    cases (resolve d [] entries (d.note (.listed repository.path entries.length) s)).1 <;> rfl

theorem rearranged (order order' : Order) (credits : List Credit) :
    Rearranged order order' (order.arrange credits) (order'.arrange credits) := by
  have hp : (order'.arrange credits).Perm (order.arrange credits) :=
    (arrange_perm order' credits).trans (arrange_perm order credits).symm
  refine ⟨hp, ?_, fun style ↦ hp.map style.render⟩
  rintro rfl
  rfl

theorem collect_rearranged (d : Directory σ) (repository : Repository) (order order' : Order)
    (s : σ) :
    let out := collect d repository order s
    let out' := collect d repository order' s
    out'.2 = out.2 ∧ Agree (Rearranged order order') out.1 out'.1 := by
  intro out out'
  have h : out = _ := collect_arranged d repository order s
  have h' : out' = _ := collect_arranged d repository order' s
  rw [h, h']
  rcases collect d repository .listed s with ⟨e | credits, s⟩
  · exact ⟨rfl, .error e⟩
  · exact ⟨rfl, .ok (rearranged order order' credits)⟩

end Collection

namespace Program

open CommandLine (Arguments)
open Collection Github Http Url

/-- One report in two orders and two styles. -/
def SameReport (settings settings' : Settings) (text text' : String) : Prop :=
  ∃ credits credits', Rearranged settings.order settings'.order credits credits' ∧
    text = Report.text settings.style credits ∧ text' = Report.text settings'.style credits'

section Reports

variable [Idna] [Library]

theorem report_rearranged {settings settings' : Settings}
    (hr : settings'.repository = settings.repository) (hu : settings'.apiUrl = settings.apiUrl)
    (token : Option String) (s : Session) :
    (report settings' token s).2 = (report settings token s).2 ∧
      Agree (SameReport settings settings') (report settings token s).1
        (report settings' token s).1 := by
  simp only [report, hr, hu]
  cases Client.make settings.apiUrl token with
  | error e => exact ⟨rfl, .error _⟩
  | ok client =>
    have h := collect_rearranged client.directory settings.repository settings.order
      settings'.order s
    simp only
    revert h
    rcases collect client.directory settings.repository settings.order s with ⟨x, t⟩
    rcases collect client.directory settings.repository settings'.order s with ⟨x', t'⟩
    rintro ⟨rfl, hc⟩
    cases hc with
    | error e => exact ⟨rfl, .error _⟩
    | ok h => exact ⟨rfl, .ok ⟨_, _, h, rfl, rfl⟩⟩

/-- The order and the style show in the report alone. Whatever a directory is asked, and whatever is
sent, is the same and comes in the same sequence, and so does all that is told of it but the
settings themselves. A run fails with the same failure, or else it reports the same credits. -/
theorem run_rearranges :
    (∀ (σ : Type) (d : Directory σ) (repository : Repository) (order order' : Order) (s : σ),
      let out := collect d repository order s
      let out' := collect d repository order' s
      out'.2 = out.2 ∧ Agree (Rearranged order order') out.1 out'.1) ∧
    ∀ (a a' : Arguments) (config config' : Config) (settings settings' : Settings)
      (token : Option String) (s : Session),
      Settings.resolve a config = .ok settings → Settings.resolve a' config' = .ok settings' →
      settings'.repository = settings.repository → settings'.apiUrl = settings.apiUrl →
      let out := run a config token s
      let out' := run a' config' token s
      out'.2.network = out.2.network ∧ out'.2.requests = out.2.requests ∧
      (∃ steps, out.2.trace = s.trace ++ .settingsResolved settings :: steps ∧
        out'.2.trace = s.trace ++ .settingsResolved settings' :: steps) ∧
      Agree (SameReport settings settings') out.1 out'.1 := by
  refine ⟨fun σ d ↦ collect_rearranged d, ?_⟩
  intro a a' config config' settings settings' token s hs hs' hr hu out out'
  have ho : out = _ := run_after hs token s
  have ho' : out' = _ := run_after hs' token s
  have h := report_rearranged hr hu token { s with trace := [] }
  rw [ho, ho']
  revert h
  rcases report settings token _ with ⟨x, t⟩
  rcases report settings' token _ with ⟨x', t'⟩
  rintro ⟨rfl, hx⟩
  exact ⟨rfl, rfl, ⟨_, List.append_assoc _ _ _, List.append_assoc _ _ _⟩, hx⟩

end Reports

theorem run_rearranges_sorted :
    let a : Arguments := ⟨none, none, false, none, none, false, false⟩
    let a' : Arguments := ⟨none, some .plain, true, none, none, false, false⟩
    ∃ settings settings', Settings.resolve a {} = .ok settings ∧
      Settings.resolve a' {} = .ok settings' ∧ settings ≠ settings' ∧
      ∀ s, (run a' {} none s).2.requests = (run a {} none s).2.requests ∧
        Agree (SameReport settings settings') (run a {} none s).1 (run a' {} none s).1 := by
  intro a a'
  let repository : Repository := ⟨"dropwizard", "dropwizard", by decide, by decide⟩
  have hs : Settings.resolve a {} =
      .ok ⟨repository, .link, .listed, "https://api.github.com"⟩ := rfl
  have hs' : Settings.resolve a' {} =
      .ok ⟨repository, .plain, .byName, "https://api.github.com"⟩ := rfl
  refine ⟨_, _, hs, hs', by decide, fun s ↦ ?_⟩
  have h := run_rearranges.2 a a' {} {} _ _ none s hs hs' rfl rfl
  exact ⟨h.2.1, h.2.2.2⟩

end Program

end CreditRoll
