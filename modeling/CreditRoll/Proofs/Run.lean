import CreditRoll.Program
import CreditRoll.Proofs.Refinement

namespace CreditRoll

open Collection Github Http Url

namespace Github

section Collecting

variable [Idna] [Library]

/-- A script that begins with a whole listing and then a profile for each login, and the credits
that they make. -/
def Collects (c : Client) (repository : Repository) (replies : List Reply)
    (credits : List Credit) : Prop :=
  ∃ pages last more found rest,
    replies = pages.flatMap (·.replies) ++ (Visit.replies last ++ found) ∧
    Leads (c.listingUrl repository.owner repository.name) pages last.url ∧
    Completes last.answer more ∧
    Told c (firstListed (pages.flatMap (·.entries) ++ more)) found credits rest

namespace Client

theorem collect_ok_iff_of_list (c : Client) {repository : Repository} (order : Order)
    {s : Session} {entries : List Entry} {found : List Reply} {sent : List Request}
    {steps : List Event}
    (h : c.list repository.owner repository.name s = (.ok entries, ⟨.server found, sent, steps⟩))
    (credits : List Credit) :
    (collect c.directory repository order s).1 = .ok credits ↔
      ∃ told rest, Told c (firstListed entries) found told rest ∧ credits = order.arrange told := by
  have hv : (collect c.directory repository order s).1 =
      (lookUp c.networkView.look (firstListed entries) (.server found, sent)).1.map
        order.arrange := congrArg Prod.fst (collect_view c.networkView order h)
  rw [hv]
  constructor
  · intro hc
    rcases hl : lookUp c.networkView.look (firstListed entries) (.server found, sent) with
      ⟨e | told, t⟩
    · rw [hl] at hc
      cases hc
    · rw [hl] at hc
      cases hc
      obtain ⟨rest, ht⟩ := c.lookUp_ok_iff.1 (congrArg Prod.fst hl)
      exact ⟨told, rest, ht, rfl⟩
  · rintro ⟨told, rest, ht, rfl⟩
    rw [c.lookUp_ok_iff.2 ⟨rest, ht⟩]
    rfl

/-- A collection succeeds on no script but one that holds all that it asks for. -/
theorem collect_ok_iff (c : Client) (repository : Repository) (order : Order)
    (replies : List Reply) (sent : List Request) (steps : List Event) (credits : List Credit) :
    (collect c.directory repository order ⟨.server replies, sent, steps⟩).1 = .ok credits ↔
      ∃ told, Collects c repository replies told ∧ credits = order.arrange told := by
  constructor
  · intro h
    obtain ⟨pages, rest, last, hr, hp, ⟨v, more, found, steps', rfl, rfl, hm, hl⟩ | ⟨_, _, -, hl⟩ |
      ⟨_, _, _, _, -, -, -, hl⟩⟩ := c.listFrom_cases sent steps
        (c.listingUrl repository.owner repository.name) replies
    · obtain ⟨told, rest, ht, rfl⟩ := (c.collect_ok_iff_of_list order hl credits).1 h
      exact ⟨told, ⟨pages, v, more, found, rest, hr, hp, hm, ht⟩, rfl⟩
    · simp [collect, directory, list, hl] at h
    · simp [collect, directory, list, hl] at h
  · rintro ⟨told, ⟨pages, last, more, found, rest, rfl, hp, hm, ht⟩, rfl⟩
    have hl := c.listFrom_whole_steps sent steps hp hm found
    exact (c.collect_ok_iff_of_list order hl _).2 ⟨told, rest, ht, rfl⟩

end Client

end Collecting

end Github

namespace Program

open CommandLine (Arguments)

theorem configTold_eq (files : Files) (dir : Option String) (s : Session) :
    ∃ steps, configTold files dir s = { s with trace := steps } := by
  unfold configTold
  cases Config.source? files dir with
  | none => exact ⟨s.trace, rfl⟩
  | some path => exact ⟨_, rfl⟩

section Stages

variable [Idna] [Library]

def Succeeds (a : Arguments) (e : Environment) (files : Files) (replies : List Reply)
    (output : String) : Prop :=
  ∃ config settings client credits, Config.load files e.ownConfigDir = .ok config ∧
    Settings.resolve a config = .ok settings ∧
    Client.make settings.apiUrl e.token = .ok client ∧
    Collects client settings.repository replies credits ∧
    output = Report.text settings.style (settings.order.arrange credits)

theorem report_ok_iff (settings : Settings) (token : Option String) (replies : List Reply)
    (sent : List Request) (steps : List Event) (output : String) :
    (report settings token ⟨.server replies, sent, steps⟩).1 = .ok output ↔
      ∃ client credits, Client.make settings.apiUrl token = .ok client ∧
        Collects client settings.repository replies credits ∧
        output = Report.text settings.style (settings.order.arrange credits) := by
  cases hm : Client.make settings.apiUrl token with
  | error e => simp [report, hm]
  | ok client =>
    have hc := client.collect_ok_iff settings.repository settings.order replies sent steps
    rw [report, hm]
    simp only [Except.ok.injEq]
    rcases hx : collect client.directory settings.repository settings.order
      ⟨.server replies, sent, steps⟩ with ⟨e | credits, s⟩
    · rw [hx] at hc
      constructor
      · intro h
        cases h
      · rintro ⟨_, told, rfl, ht, rfl⟩
        cases (hc _).2 ⟨told, ht, rfl⟩
    · rw [hx] at hc
      constructor
      · intro h
        obtain ⟨told, ht, rfl⟩ := (hc credits).1 rfl
        cases h
        exact ⟨client, told, rfl, ht, rfl⟩
      · rintro ⟨_, told, rfl, ht, rfl⟩
        cases (hc _).2 ⟨told, ht, rfl⟩
        rfl

theorem run_ok_iff (a : Arguments) (config : Config) (token : Option String)
    (replies : List Reply) (steps : List Event) (output : String) :
    (run a config token ⟨.server replies, [], steps⟩).1 = .ok output ↔
      ∃ settings client credits, Settings.resolve a config = .ok settings ∧
        Client.make settings.apiUrl token = .ok client ∧
        Collects client settings.repository replies credits ∧
        output = Report.text settings.style (settings.order.arrange credits) := by
  cases hs : Settings.resolve a config with
  | error e => simp [run, hs]
  | ok settings =>
    have hr (steps : List Event) := report_ok_iff settings token replies [] steps output
    simp only [run, hs, Session.note, Except.ok.injEq, exists_and_left, exists_eq_left']
    simp only [exists_and_left] at hr
    cases token with
    | none => exact hr _
    | some token => exact hr _

/-- What stands in the way of a run before anything is asked of the service, and what is said about
it and about its causes. What is found first is said, whatever else would be found after it. -/
inductive Obstacle (a : Arguments) (e : Environment) (files : Files) :
    (message : String) → (causes : List String) → Prop
  | config {error : Config.Error} (h : Config.load files e.ownConfigDir = .error error) :
      Obstacle a e files error.message error.causes
  | repository {config : Config} (hc : Config.load files e.ownConfigDir = .ok config)
      (ha : a.repository = none) (h : Repository.parse? config.repository = none) :
      Obstacle a e files (Failure.invalidRepository config.repository).message []
  | base {config : Config} {settings : Settings}
      (hc : Config.load files e.ownConfigDir = .ok config)
      (hs : Settings.resolve a config = .ok settings)
      (h : Client.isWebBase (Client.dropSlashes settings.apiUrl) = false) :
      Obstacle a e files (Error.invalidBase (Client.dropSlashes settings.apiUrl)).message []
  | token {config : Config} {settings : Settings} {token : String}
      (hc : Config.load files e.ownConfigDir = .ok config)
      (hs : Settings.resolve a config = .ok settings)
      (hb : Client.isWebBase (Client.dropSlashes settings.apiUrl) = true)
      (ht : e.token = some token) (h : token.toList.all Client.isHeaderChar = false) :
      Obstacle a e files (Error.invalidToken "failed to parse header value").message []

theorem run_of_make_error {a : Arguments} {config : Config} {settings : Settings}
    {token : Option String} {e : Error} (hs : Settings.resolve a config = .ok settings)
    (hm : Client.make settings.apiUrl token = .error e) (s : Session) :
    ∃ steps, run a config token s = (.error (.github e), { s with trace := steps }) := by
  simp only [run, hs, report, hm]
  cases token with
  | none => exact ⟨_, rfl⟩
  | some token => exact ⟨_, rfl⟩

theorem credits_of_run_error {a : Arguments} {e : Environment} {files : Files} {config : Config}
    {failure : Failure} {s s' : Session} (hc : Config.load files e.ownConfigDir = .ok config)
    (hr : run a config e.token (configTold files e.ownConfigDir s) = (.error failure, s')) :
    credits a e files s = .failed failure.message failure.causes s' := by
  simp only [credits, hc, hr]

theorem credits_of_obstacle {a : Arguments} {e : Environment} {files : Files} {message : String}
    {causes : List String} (h : Obstacle a e files message causes) (s : Session) :
    ∃ steps, credits a e files s = .failed message causes { s with trace := steps } := by
  obtain ⟨told, ht⟩ := configTold_eq files e.ownConfigDir s
  cases h with
  | config h => exact ⟨told, by simp only [credits, h, ht]⟩
  | @repository config hc ha h =>
    have hr : Settings.resolve a config = .error (.invalidRepository config.repository) := by
      simp only [Settings.resolve, Settings.repository?, ha, h]
      rfl
    have hr : run a config e.token (configTold files e.ownConfigDir s) =
        (.error (.invalidRepository config.repository), { s with trace := told }) := by
      rw [ht, run, hr]
    exact ⟨told, credits_of_run_error hc hr⟩
  | @base config settings hc hs h =>
    have hm : Client.make settings.apiUrl e.token =
        .error (.invalidBase (Client.dropSlashes settings.apiUrl)) := by
      simp [Client.make, h]
    obtain ⟨steps, hr⟩ := run_of_make_error hs hm (configTold files e.ownConfigDir s)
    refine ⟨steps, (credits_of_run_error hc hr).trans ?_⟩
    rw [ht]
    rfl
  | @token config settings token hc hs hb htoken h =>
    have hm : Client.make settings.apiUrl e.token =
        .error (.invalidToken "failed to parse header value") := by
      simp [Client.make, hb, htoken, h]
    obtain ⟨steps, hr⟩ := run_of_make_error hs hm (configTold files e.ownConfigDir s)
    refine ⟨steps, (credits_of_run_error hc hr).trans ?_⟩
    rw [ht]
    rfl

theorem succeeds_iff {a : Arguments} {e : Environment} {files : Files} {config : Config}
    (hc : Config.load files e.ownConfigDir = .ok config) (replies : List Reply)
    (steps : List Event) (output : String) :
    Succeeds a e files replies output ↔
      (run a config e.token ⟨.server replies, [], steps⟩).1 = .ok output := by
  simp only [Succeeds, run_ok_iff, hc, Except.ok.injEq, exists_and_left, exists_eq_left']

theorem credits_cases (a : Arguments) (e : Environment) (files : Files) (replies : List Reply) :
    let out := credits a e files (.start (.server replies))
    (∃ text, out.exitCode = 0 ∧ out.output = text ∧
      ∀ output, Succeeds a e files replies output ↔ output = text) ∨
    (out.exitCode = 1 ∧ out.output = "" ∧ ∀ output, ¬ Succeeds a e files replies output) := by
  intro out
  obtain ⟨steps, ht⟩ := configTold_eq files e.ownConfigDir (.start (.server replies))
  cases hc : Config.load files e.ownConfigDir with
  | error error =>
    have ho : out = .failed error.message error.causes
        (configTold files e.ownConfigDir (.start (.server replies))) := by
      simp only [out, credits, hc]
    exact .inr ⟨by rw [ho]; rfl, by rw [ho]; rfl, by simp [Succeeds, hc]⟩
  | ok config =>
    have hs := succeeds_iff (a := a) hc replies steps
    rcases hr : run a config e.token ⟨.server replies, [], steps⟩ with ⟨failure | text, s⟩
    · have ho : out = .failed failure.message failure.causes s :=
        credits_of_run_error hc (ht ▸ hr)
      exact .inr ⟨by rw [ho]; rfl, by rw [ho]; rfl, by simp [hs, hr]⟩
    · have ho : out = .shown text s := by
        have hr : run a config e.token (configTold files e.ownConfigDir (.start (.server replies))) =
            (.ok text, s) := ht ▸ hr
        simp only [out, credits, hc, hr]
      exact .inl ⟨text, by rw [ho]; rfl, by rw [ho]; rfl, by simp [hs, hr, eq_comm]⟩

end Stages

def warnings (a : Arguments) (v : Variables) : List String :=
  (LogFilter.warning? (LogFilter.directives a.verbose (Environment.read v).log)).toList

theorem execute_of_parse [Idna] [Library] {words : List String} {v : Variables} {files : Files}
    {a : Arguments}
    (hp : CommandLine.parse words = .ok a) (hs : a.configSchema = false) (s : Session) :
    execute words v files s =
      let out := credits a (Environment.read v) files s
      { out with complaints := warnings a v ++ out.complaints } := by
  simp only [execute, hp, hs]
  rfl

/-- A run prints its whole report and succeeds, or prints nothing and fails. It succeeds if and only
if each of its parts does: the config, the settings, the client, the whole listing and all the
profiles. What stands in its way before that is told without a request. -/
theorem execute_all_or_nothing [Idna] [Library] {words : List String} {a : Arguments}
    (hp : CommandLine.parse words = .ok a) (hs : a.configSchema = false) (v : Variables)
    (files : Files) (replies : List Reply) :
    let e := Environment.read v
    let out := execute words v files (.start (.server replies))
    (∀ output, out.exitCode = 0 ∧ out.output = output ↔ Succeeds a e files replies output) ∧
    (out.exitCode ≠ 0 → out.exitCode = 1 ∧ out.output = "") ∧
    ∀ message causes, Obstacle a e files message causes →
      out.exitCode = 1 ∧ out.output = "" ∧ out.session.requests = [] ∧
      out.session.network = .server replies ∧
      out.complaints = (LogFilter.warning? (LogFilter.directives a.verbose e.log)).toList ++
        ["Error: " ++ Outcome.told message causes] := by
  intro e out
  have ho : out = { credits a e files (.start (.server replies)) with
      complaints := (LogFilter.warning? (LogFilter.directives a.verbose e.log)).toList ++
        (credits a e files (.start (.server replies))).complaints } := by
    simp only [out, execute, hp, hs]
    rfl
  have hc := credits_cases a e files replies
  refine ⟨fun output ↦ ?_, fun hx ↦ ?_, fun message causes hm ↦ ?_⟩
  · rw [ho]
    rcases hc with ⟨text, hx, ht, hs⟩ | ⟨hx, -, hs⟩
    · simp [hx, ht, hs, eq_comm]
    · simp [hx, hs]
  · rw [ho] at hx ⊢
    rcases hc with ⟨text, h0, -, -⟩ | ⟨h1, ht, -⟩
    · exact absurd h0 hx
    · exact ⟨h1, ht⟩
  · obtain ⟨steps, hf⟩ := credits_of_obstacle hm (.start (.server replies))
    rw [ho, hf]
    exact ⟨rfl, rfl, rfl, rfl, rfl⟩

/-- A run without a config and without a token, on a listing of one page. -/
theorem execute_all_or_nothing_one_page :
    let words := ["--repo", "o/r", "--format", "plain"]
    let a : Arguments := ⟨some ⟨"o", "r", by decide, by decide⟩, some .plain, false, none, none,
      false, false⟩
    let page : SentPage := ⟨[⟨"mona", 2, none⟩], []⟩
    let profile : Profile := ⟨some "Mona", "m"⟩
    let replies := [page.response, profileResponse (some profile)].map Reply.answer
    let out := execute words (fun _ ↦ none) (fun _ ↦ .absent) (.start (.server replies))
    CommandLine.parse words = .ok a ∧ a.configSchema = false ∧
      out.exitCode = 0 ∧ out.output = "* Mona\n" := by
  intro words a page profile replies out
  have hp : CommandLine.parse words = .ok a := rfl
  refine ⟨hp, rfl, ((execute_all_or_nothing hp rfl _ _ _).1 _).2 ?_⟩
  refine ⟨{}, ⟨⟨"o", "r", by decide, by decide⟩, .plain, .listed, "https://api.github.com"⟩,
    ⟨"https://api.github.com", none⟩, [.ofProfile ⟨"mona", 2, none⟩ profile], rfl, rfl, ?_, ?_, ?_⟩
  · decide
  · have hw : IsWebUrl "https://api.github.com/repos/o/r/contributors?per_page=100" := by decide
    have hu : IsWebUrl "https://api.github.com/users/mona" := by decide
    let last : Visit := .direct hw (r := page.response) rfl
    let found : Visit := .direct hu (r := profileResponse (some profile)) rfl
    have hh : HoldsPage page.response page.entries none :=
      page.in_response.holds (by decide) (by decide)
    have hx : HoldsProfile found.answer profile :=
      ⟨rfl, Nat.ne_of_beq_eq_false rfl, Wire.profile?_encode (Json.isText_write profile.proper_json)⟩
    exact ⟨[], last, page.entries, found.replies ++ [], [], rfl, rfl, .page hh,
      .cons rfl hx .nil⟩
  · rfl

end Program

end CreditRoll
