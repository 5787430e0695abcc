import CreditRoll.Proofs.Confinement
import CreditRoll.Proofs.Precedence
import CreditRoll.Proofs.Run
import CreditRoll.Proofs.Signed

namespace CreditRoll

open Collection Github Http Url

def Begins (p s : String) : Prop := p.toList <+: s.toList

theorem begins_append (p a : String) : Begins p (p ++ a) := by
  rw [Begins, String.toList_append]
  exact List.prefix_append _ _

theorem Begins.append {p s : String} (h : Begins p s) (a : String) : Begins p (s ++ a) := by
  rw [Begins, String.toList_append]
  exact List.IsPrefix.trans h (List.prefix_append _ _)

def Apart (p q : String) : Prop := ¬ p.toList <+: q.toList ∧ ¬ q.toList <+: p.toList

instance (p q : String) : Decidable (Apart p q) := inferInstanceAs (Decidable (_ ∧ _))

/-- Texts that begin differently differ. -/
theorem Begins.ne {p q s t : String} (hs : Begins p s) (ht : Begins q t) (h : Apart p q) :
    s ≠ t := by
  rintro rfl
  rcases List.prefix_or_prefix_of_prefix hs ht with hp | hq
  · exact h.1 hp
  · exact h.2 hq

theorem Begins.told {p message : String} (h : Begins p message) (causes : List String) :
    Begins p (Program.Outcome.told message causes) := by
  unfold Program.Outcome.told
  split
  · exact h
  · exact (h.append _).append _

namespace Github

def Error.isAnswer : Error → Bool
  | request _ | api _ _ | rateLimited _ => true
  | invalidToken _ | invalidBase _ => false

namespace Client

theorem isAnswer_of_check {r : Response} {e : Error} (h : Status.check r = .error e) :
    e.isAnswer = true := by
  unfold Status.check at h
  split at h
  · cases h
  · split at h <;> cases h <;> rfl

section Answers

variable [Idna] [Library] (c : Client)

theorem isAnswer_of_get {url : String} {s s' : Session} {e : Error}
    (h : c.get url s = (.error e, s')) : e.isAnswer = true := by
  simp only [get] at h
  split at h
  · cases h
    rfl
  · split at h
    · cases h
      rfl
    · exact isAnswer_of_check (congrArg Prod.fst h)

theorem isAnswer_of_page {url : String} {s s' : Session} {e : Error}
    (h : c.page url s = (.error e, s')) : e.isAnswer = true := by
  rcases c.page_error h with hg | ⟨rfl, -⟩
  · exact c.isAnswer_of_get hg
  · rfl

theorem isAnswer_of_listFrom {url : String} {s s' : Session} {e : Error}
    (h : c.listFrom url s = (.error e, s')) : e.isAnswer = true := by
  induction url, s using listFrom.induct c generalizing s' with
  | case1 url s e' s'' hp =>
    rw [listFrom_error c hp] at h
    cases h
    exact c.isAnswer_of_page hp
  | case2 url s entries s'' hp =>
    rw [listFrom_last c hp] at h
    cases h
  | case3 url s entries next s'' hp _ _ _ ih =>
    rw [listFrom_next c hp] at h
    rcases hl : c.listFrom next s'' with ⟨e' | more, t⟩
    · rw [hl] at h
      cases h
      exact ih hl
    · rw [hl] at h
      cases h

theorem isAnswer_of_profile {login : String} {s s' : Session} {e : Error}
    (h : c.profile login s = (.error e, s')) : e.isAnswer = true := by
  rcases c.profile_error h with hg | ⟨rfl, -⟩
  · exact c.isAnswer_of_get hg
  · rfl

theorem isAnswer_of_resolve {seen : List String} {entries : List Entry} {s s' : Session}
    {e : Error} (h : resolve c.directory seen entries s = (.error e, s')) :
    e.isAnswer = true := by
  induction entries generalizing seen s s' with
  | nil => cases h
  | cons entry entries ih =>
    simp only [resolve] at h
    split at h
    · exact ih h
    · split at h
      · next hp =>
        cases h
        exact c.isAnswer_of_profile hp
      · next profile t hp =>
        rcases hr : resolve c.directory (entry.login :: seen) entries
          (c.directory.note (.resolved (.ofProfile entry profile)) t) with ⟨e' | credits, t'⟩
        · rw [hr] at h
          cases h
          exact ih hr
        · rw [hr] at h
          cases h

theorem isAnswer_of_collect {repository : Repository} {order : Order} {s s' : Session} {e : Error}
    (h : collect c.directory repository order s = (.error e, s')) : e.isAnswer = true := by
  simp only [collect] at h
  split at h
  · next hl =>
    cases h
    exact c.isAnswer_of_listFrom hl
  · next entries t hl =>
    rcases hr : resolve c.directory [] entries
      (c.directory.note (.listed repository.path entries.length) t) with ⟨e' | credits, t'⟩
    · rw [hr] at h
      cases h
      exact c.isAnswer_of_resolve hr
    · rw [hr] at h
      cases h

end Answers

end Client

end Github

def Failure.isOfToken : Failure → Bool
  | .github (.invalidToken _) => true
  | _ => false

theorem Failure.exists_begins {f : Failure} (h : f.isOfToken = false) :
    ∃ p, Begins p f.message ∧ Apart p "Invalid GitHub token: " := by
  cases f with
  | invalidRepository given =>
    exact ⟨_, (begins_append "Invalid repository format: " given).append _, by decide⟩
  | outputFull => exact ⟨"Failed", List.isPrefixOf_iff_prefix.1 (by decide +kernel), by decide⟩
  | github e =>
    cases e with
    | invalidToken => cases h
    | invalidBase address => exact ⟨_, begins_append "Invalid GitHub API URL: " address, by decide⟩
    | request fault => exact ⟨_, begins_append "GitHub request failed: " fault.message, by decide⟩
    | api status explanation =>
      have hm : (Failure.github (.api status explanation)).message =
          if explanation.isEmpty then "GitHub API error" ++ (" (HTTP " ++ toString status ++ ")")
          else "GitHub API error: " ++ explanation ++ (" (HTTP " ++ toString status ++ ")") := rfl
      rw [hm]
      split
      · exact ⟨_, begins_append "GitHub API error" _, by decide⟩
      · exact ⟨_, (begins_append "GitHub API error: " explanation).append _, by decide⟩
    | rateLimited reset =>
      exact ⟨_, (begins_append "GitHub API rate limit exceeded" _).append _, by decide⟩

theorem Config.Error.exists_begins (e : Config.Error) :
    ∃ p, Begins p e.message ∧ Apart p "Invalid GitHub token: " := by
  cases e with
  | unreadable path fault =>
    exact ⟨_, ((begins_append "Failed to read config file " path).append _).append _, by decide⟩
  | malformed path =>
    exact ⟨_, (begins_append "Invalid config file " path).append _, by decide⟩
  | wrong path fault =>
    exact ⟨_, ((begins_append "Invalid config file " path).append _).append _, by decide⟩

theorem told_ne {message : String}
    (h : ∃ p, Begins p message ∧ Apart p "Invalid GitHub token: ") (causes : List String)
    (reason : String) :
    Program.Outcome.told message causes ≠ (Github.Error.invalidToken reason).message := by
  obtain ⟨p, hb, ha⟩ := h
  exact (hb.told causes).ne (begins_append "Invalid GitHub token: " reason) ha

theorem trimBlank_of_isAllBlank {s : String} (h : s.isAllBlank = true) : s.trimBlank = "" := by
  have hd : s.toList.dropWhile Text.isBlank = [] :=
    List.dropWhile_eq_nil_iff.2 (List.all_eq_true.1 h)
  rw [String.trimBlank, Text.trim, Text.strip, hd]
  rfl

theorem isAllBlank_eq_false_of_mem {s : String} {c : Char} (h : c ∈ s.trimBlank.toList) :
    s.isAllBlank = false := by
  cases hb : s.isAllBlank with
  | false => rfl
  | true =>
    rw [trimBlank_of_isAllBlank hb] at h
    cases h

namespace Environment

theorem token_eq_none_iff {v : Variables} :
    (read v).token = none ↔ ∀ s ∈ text? v "GITHUB_TOKEN", s.isAllBlank = true := by
  simp [read, notBlank?, Option.filter_eq_none_iff]

theorem token_eq_some_iff {v : Variables} {token : String} :
    (read v).token = some token ↔
      ∃ s, text? v "GITHUB_TOKEN" = some s ∧ s.isAllBlank = false ∧ s.trimBlank = token := by
  simp [read, notBlank?, Option.filter_eq_some_iff, and_assoc]

end Environment

namespace CommandLine

def AsksForInformation (words : List String) : Prop :=
  match parse words with
  | .error stop => stop.isError = false
  | .ok a => a.configSchema = true

theorem Stop.message_ne {stop : Stop} (h : stop.isError = true) (rest : String) :
    stop.message ≠ "Error: " ++ rest := by
  have hm : stop.message = String.ofList
      ((Plain.text ("error: " ++ stop.complaint).toList).takeWhile (· != '\n')) := by
    cases stop <;> first | rfl | cases h
  have hc : (Plain.text ("error: " ++ stop.complaint).toList).takeWhile (· != '\n') =
      'e' :: ((Plain.text ("rror: " ++ stop.complaint).toList).takeWhile (· != '\n')) := by
    rw [String.toList_append, String.toList_append]
    rfl
  have hb : Begins "e" stop.message := by
    have he : "e".toList = ['e'] := rfl
    rw [Begins, he, hm, hc, String.toList_ofList]
    exact List.cons_prefix_cons.2 ⟨rfl, List.nil_prefix⟩
  exact hb.ne (begins_append "Error: " rest) (by decide)

end CommandLine

namespace Github

section Requests

variable [Idna]

/-- An address that names credentials has them sent, and every other one the token. -/
def authorizationFor (token : Option String) (url : String) : Option String :=
  ((Address.parse? url >>= Address.credentials?).map (·.basic)).or
    (token.map ("Bearer " ++ ·))

structure Carries (token : Option String) (r : Request) : Prop where
  method : r.method = "GET"
  headers : r.headers = [("accept", "application/vnd.github+json"),
    ("user-agent", "ghcredits/0.1.0"), ("x-github-api-version", "2022-11-28")] ++
      ((authorizationFor token r.url).map ("authorization", ·)).toList

theorem carries_request (c : Client) (url : String) : Carries c.token (c.request url) := by
  refine ⟨rfl, ?_⟩
  have hu : (c.request url).url = url := rfl
  have hh : (c.request url).headers = c.headersFor url := rfl
  rw [hu, hh, Client.headersFor, authorizationFor]
  cases Address.parse? url >>= Address.credentials? with
  | some credentials => rfl
  | none =>
    simp only [Client.headers, Option.map_none, Option.none_or]
    cases c.token <;> rfl

theorem Carries.name_of_mem {token : Option String} {r : Request} (h : Carries token r)
    {field : String × String} (hm : field ∈ r.headers) :
    field.1 ∈ ["accept", "user-agent", "x-github-api-version", "authorization"] := by
  rw [h.headers, List.mem_append, Option.mem_toList, Option.map_eq_some_iff] at hm
  rcases hm with hm | ⟨value, -, rfl⟩
  · have hn : ∀ f ∈ [("accept", "application/vnd.github+json"), ("user-agent", "ghcredits/0.1.0"),
        ("x-github-api-version", "2022-11-28")],
        f.1 ∈ ["accept", "user-agent", "x-github-api-version", "authorization"] := by decide
    exact hn field hm
  · simp

/-- A request that is sent on says what it said at first and where it comes from. It says who sends
it as long as it stays on one server, and not when it has just left one. -/
structure Relays (sent : List Request) (k j : Nat) (first before q : Request) : Prop where
  method : q.method = first.method
  kept : ∀ field ∈ first.headers, field.1 ≠ "authorization" → field ∈ q.headers
  faithful : (∀ l p, k ≤ l → l ≤ j → sent[l]? = some p → SameServer p.url q.url) →
    ∀ field ∈ first.headers, field ∈ q.headers
  added : ∀ field ∈ q.headers, field ∈ first.headers ∨ field.1 = "referer"
  guarded : ¬ SameServer before.url q.url → "authorization" ∉ q.headers.map (·.1)

variable [Library]

theorem SentOn.relays (hg : Library.Guarded) {sent : List Request} {replies : List Reply}
    {k j : Nat} {first before q : Request} (h : SentOn sent replies k j first before q)
    {token : Option String} (hc : Carries token first) : Relays sent k j first before q := by
  obtain ⟨asked, referer, ha, hh⟩ := h.headers
  have hkept {field : String × String} (hm : field ∈ first.headers)
      (hw : Library.withholds (before.url :: asked) q.url field.1 = false) : field ∈ q.headers := by
    rw [hh]
    exact List.mem_append_left _ (List.mem_filter.2 ⟨hm, by rw [hw]; rfl⟩)
  refine ⟨?_, fun field hm hn ↦ ?_, fun hs field hm ↦ ?_, fun field hm ↦ ?_, h.authorization hg⟩
  · obtain ⟨asked, hq, -⟩ := h.redirected
    rw [hq]
    rfl
  · refine hkept hm (hg.spared ?_)
    have hname := hc.name_of_mem hm
    revert hn hname
    generalize field.1 = name
    simp only [List.mem_cons, List.not_mem_nil, or_false]
    rintro hn (rfl | rfl | rfl | rfl)
    · decide
    · decide
    · decide
    · exact absurd rfl hn
  · refine hkept hm (hg.faithful (List.forall_mem_cons.2 ⟨?_, fun address ha' ↦ ?_⟩) ?_)
    · exact hs j before h.le (Nat.le_refl j) h.before_at
    · obtain ⟨l, p, hk, hj, hl, rfl⟩ := ha address ha'
      exact hs l p hk hj hl
    · have hname := hc.name_of_mem hm
      revert hname
      generalize field.1 = name
      simp only [List.mem_cons, List.not_mem_nil, or_false]
      rintro (rfl | rfl | rfl | rfl) <;> decide
  · rw [hh, List.mem_append, List.mem_map] at hm
    rcases hm with hm | ⟨address, -, rfl⟩
    · exact .inl (List.mem_filter.1 hm).1
    · exact .inr rfl

/-- Every request is one in the name of a token's holder, or the answer to the request before it
sends such a one on. -/
def Speaks (token : Option String) (replies : List Reply) (sent : List Request) : Prop :=
  ∀ (i : Nat) (q : Request), sent[i]? = some q → Carries token q ∨
    ∃ k j first before, i = j + 1 ∧ Carries token first ∧
      SentOn sent replies k j first before q ∧ Relays sent k j first before q

theorem speaks_nil (token : Option String) (replies : List Reply) : Speaks token replies [] :=
  fun _ _ h ↦ nomatch h

theorem speaks_askedFor (hg : Library.Guarded) (c : Client) (urls : List String)
    (replies : List Reply) : Speaks c.token replies (c.askedFor urls replies) := by
  intro i q hq
  rcases c.exists_origin hq with ⟨url, -, rfl⟩ | ⟨k, j, p, url, -, hj, hs⟩
  · exact .inl (carries_request c url)
  · have hc := carries_request c url
    exact .inr ⟨k, j, _, p, hj, hc, hs, hs.relays hg hc⟩

end Requests

def replies : Network → List Reply
  | .server replies => replies
  | .unreachable => []

theorem Client.make_token {base : String} {token : Option String} {c : Client}
    (h : make base token = .ok c) : c.token = token := by
  unfold make at h
  simp only at h
  split at h
  · cases h
  · split at h
    · cases h
    · cases h
      rfl

theorem Client.collect_speaks [Idna] [Library] (hg : Library.Guarded) (c : Client)
    (repository : Repository) (order : Order) (network : Network) :
    Speaks c.token (replies network)
      (collect c.directory repository order (.start network)).2.requests := by
  cases network with
  | server replies =>
    obtain ⟨pages, last, rest, logins, -, -, hs⟩ := c.collect_asked repository order replies
    rw [hs]
    exact speaks_askedFor hg c _ replies
  | unreachable =>
    have hp (url : String) : ∃ e, c.page url (.start .unreachable) =
        (.error e, (Session.start .unreachable).note (.get url)) := by
      simp only [page, get]
      cases addressFault? url with
      | some fault => exact ⟨_, rfl⟩
      | none => exact ⟨_, rfl⟩
    obtain ⟨e, h⟩ := hp (c.listingUrl repository.owner repository.name)
    have hl : c.directory.list repository.owner repository.name (.start .unreachable) = _ :=
      listFrom_error c h
    simp only [collect, hl]
    exact speaks_nil _ _

theorem Sendable.of_isReadable {token : String}
    (h : token.toList.all Headers.isReadable = true) : Sendable token := by
  refine List.all_eq_true.2 fun c hc ↦ ?_
  have hr := List.all_eq_true.1 h c hc
  simp only [Headers.isReadable, Client.isHeaderChar, Bool.or_eq_true, Bool.and_eq_true,
    decide_eq_true_eq, bne_iff_ne] at hr ⊢
  rcases hr with ⟨hl, hu⟩ | ht
  · exact .inl ⟨hl, by omega⟩
  · exact .inr ht

end Github

namespace Program

open CommandLine (Arguments AsksForInformation)

theorem not_sendable {token : String} (h : ¬ Sendable token) :
    token.toList.all Client.isHeaderChar = false :=
  Bool.eq_false_iff.2 h

theorem warning_ne {a : Arguments} {v : Variables} {message : String}
    (h : message ∈ warnings a v) (rest : String) :
    message ≠ "Error: " ++ rest := by
  have hb : Begins "Ignoring" message := by
    rw [warnings, Option.mem_toList, LogFilter.warning?] at h
    split at h
    · cases h
    · cases h
      rw [Begins, String.toList_append, String.toList_append, String.toList_append]
      exact ⟨_, rfl⟩
  exact hb.ne (begins_append "Error: " rest) (by decide)

theorem append_ne {p m m' : String} (h : m ≠ m') : p ++ m ≠ p ++ m' := by
  intro he
  have hl := congrArg String.toList he
  rw [String.toList_append, String.toList_append] at hl
  exact h (String.toList_injective (List.append_cancel_left hl))

/-- A token that cannot be sent stands in the way, unless something else does before it. -/
theorem exists_obstacle (a : Arguments) (e : Environment) (files : Files) {token : String}
    (ht : e.token = some token) (h : ¬ Sendable token) :
    ∃ message causes, Obstacle a e files message causes := by
  cases hc : Config.load files e.ownConfigDir with
  | error error => exact ⟨_, _, .config hc⟩
  | ok config =>
    cases hs : Settings.resolve a config with
    | error failure =>
      obtain ⟨ha, hr, -⟩ := Settings.resolve_eq_error.1 hs
      exact ⟨_, _, .repository hc ha hr⟩
    | ok settings =>
      cases hb : Client.isWebBase (Client.dropSlashes settings.apiUrl) with
      | false => exact ⟨_, _, .base hc hs hb⟩
      | true => exact ⟨_, _, .token hc hs hb ht (not_sendable h)⟩

section Runs

variable [Idna] [Library] {words : List String} {v : Variables} {files : Files} {a : Arguments}

theorem execute_session (hp : CommandLine.parse words = .ok a) (hs : a.configSchema = false)
    {config : Config} (hc : Config.load files (Environment.read v).ownConfigDir = .ok config)
    (s : Session) :
    (execute words v files s).session = (run a config (Environment.read v).token
      (configTold files (Environment.read v).ownConfigDir s)).2 := by
  rw [execute_of_parse hp hs]
  rcases hr : run a config (Environment.read v).token
    (configTold files (Environment.read v).ownConfigDir s) with ⟨failure | text, s'⟩
  · rw [credits_of_run_error hc hr]
    rfl
  · simp only [credits, hc, hr]
    rfl

theorem execute_of_obstacle (hp : CommandLine.parse words = .ok a) (hs : a.configSchema = false)
    {message : String} {causes : List String}
    (h : Obstacle a (Environment.read v) files message causes) (s : Session) :
    ∃ steps, execute words v files s =
      ⟨1, "", warnings a v ++ ["Error: " ++ Outcome.told message causes],
        { s with trace := steps }⟩ := by
  obtain ⟨steps, hc⟩ := credits_of_obstacle h s
  refine ⟨steps, ?_⟩
  rw [execute_of_parse hp hs, hc]
  rfl

/-- A run that sends nothing and fails. Where nothing comes before it, the token is to blame. -/
structure Refused (words : List String) (v : Variables) (files : Files) (out : Outcome) : Prop where
  fails : out.exitCode ≠ 0
  silent : out.session.requests = []
  blames : ∀ {a config settings}, CommandLine.parse words = .ok a → a.configSchema = false →
    Config.load files (Environment.read v).ownConfigDir = .ok config →
    Settings.resolve a config = .ok settings →
    Client.isWebBase (Client.dropSlashes settings.apiUrl) = true →
    out.exitCode = 1 ∧ out.output = "" ∧ out.complaints =
      warnings a v ++ ["Error: Invalid GitHub token: failed to parse header value"]

theorem refused {token : String} (ht : (Environment.read v).token = some token)
    (h : ¬ Sendable token) (hw : ¬ AsksForInformation words) (network : Network) :
    Refused words v files (execute words v files (.start network)) := by
  cases hp : CommandLine.parse words with
  | error stop =>
    have hx : stop.isError = true := by
      simpa only [AsksForInformation, hp, Bool.not_eq_false] using hw
    have ho : execute words v files (.start network) =
        ⟨2, "", [stop.message], .start network⟩ := by
      simp only [execute, hp, stopped, CommandLine.Stop.exitCode, hx, if_true]
    refine ⟨?_, ?_, fun hq ↦ ?_⟩
    · rw [ho]
      exact Nat.succ_ne_zero 1
    · rw [ho]
      rfl
    · rw [hp] at hq
      cases hq
  | ok a =>
    have hs : a.configSchema = false := by
      simpa only [AsksForInformation, hp, Bool.not_eq_true] using hw
    obtain ⟨message, causes, hm⟩ := exists_obstacle a (Environment.read v) files ht h
    obtain ⟨steps, ho⟩ := execute_of_obstacle hp hs hm (.start network)
    refine ⟨?_, ?_, fun hq _ hc hr hb ↦ ?_⟩
    · rw [ho]
      exact Nat.succ_ne_zero 0
    · rw [ho]
      rfl
    · rw [hp] at hq
      cases hq
      obtain ⟨steps', hb⟩ := execute_of_obstacle hp hs
        (.token hc hr hb ht (not_sendable h)) (.start network)
      rw [hb]
      exact ⟨rfl, rfl, rfl⟩

theorem run_speaks (hg : Library.Guarded) (a : Arguments) (config : Config)
    (token : Option String) (network : Network) (steps : List Event) :
    Speaks token (replies network) (run a config token ⟨network, [], steps⟩).2.requests := by
  cases hs : Settings.resolve a config with
  | error failure =>
    simp only [run, hs]
    exact speaks_nil _ _
  | ok settings =>
    have hr : (run a config token ⟨network, [], steps⟩).2.requests =
        (report settings token (.start network)).2.requests := by
      rw [run_after hs]
      simp only [Prod.map, Session.after, Session.start]
    rw [hr]
    cases hm : Client.make settings.apiUrl token with
    | error e =>
      simp only [report, hm]
      exact speaks_nil _ _
    | ok c =>
      have hk := c.collect_speaks hg settings.repository settings.order network
      rw [Client.make_token hm] at hk
      simp only [report, hm]
      rcases hx : collect c.directory settings.repository settings.order (.start network) with
        ⟨e | credits, s⟩ <;> (rw [hx] at hk; exact hk)

theorem silent_of_asksForInformation (h : AsksForInformation words) (s : Session) :
    (execute words v files s).session = s := by
  cases hp : CommandLine.parse words with
  | error stop =>
    simp only [execute, hp, stopped]
    split <;> rfl
  | ok a =>
    have hs : a.configSchema = true := by simpa only [AsksForInformation, hp] using h
    simp only [execute, hp, hs, if_true]
    rfl

/-- Whatever a run sends, it sends in the name of the same holder. -/
theorem execute_speaks (hg : Library.Guarded) (words : List String) (v : Variables) (files : Files)
    (network : Network) :
    Speaks (Environment.read v).token (replies network)
      (execute words v files (.start network)).session.requests := by
  by_cases hw : AsksForInformation words
  · rw [silent_of_asksForInformation hw]
    exact speaks_nil _ _
  cases hp : CommandLine.parse words with
  | error stop =>
    simp only [execute, hp, stopped]
    split <;> exact speaks_nil _ _
  | ok a =>
    have hs : a.configSchema = false := by
      simpa only [AsksForInformation, hp, Bool.not_eq_true] using hw
    obtain ⟨steps, ht⟩ :=
      configTold_eq files (Environment.read v).ownConfigDir (.start network)
    cases hc : Config.load files (Environment.read v).ownConfigDir with
    | error error =>
      obtain ⟨_, ho⟩ := execute_of_obstacle hp hs (.config hc) (.start network)
      rw [ho]
      exact speaks_nil _ _
    | ok config =>
      rw [execute_session hp hs hc, ht]
      exact run_speaks hg a config _ network steps

theorem isOfToken_of_report {settings : Settings} {token : Option String} {s s' : Session}
    {failure : Failure} (h : ∀ t ∈ token, Sendable t)
    (hr : report settings token s = (.error failure, s')) : failure.isOfToken = false := by
  rw [report, Client.make_of_sendable _ h] at hr
  cases hb : Client.isWebBase (Client.dropSlashes settings.apiUrl) with
  | false =>
    simp only [hb, Bool.false_eq_true, if_false] at hr
    cases hr
    rfl
  | true =>
    simp only [hb, if_true] at hr
    split at hr
    · next e s'' hc =>
      cases hr
      have ha := Client.isAnswer_of_collect _ hc
      cases e with
      | invalidToken => cases ha
      | _ => rfl
    · cases hr

theorem isOfToken_of_run {config : Config} {token : Option String} {s s' : Session}
    {failure : Failure} (h : ∀ t ∈ token, Sendable t)
    (hr : run a config token s = (.error failure, s')) : failure.isOfToken = false := by
  cases hs : Settings.resolve a config with
  | error failure' =>
    simp only [run, hs] at hr
    cases hr
    rw [(Settings.resolve_eq_error.1 hs).2.2]
    rfl
  | ok settings =>
    simp only [run, hs] at hr
    exact isOfToken_of_report h hr

/-- A token that can be sent is never to blame. -/
theorem execute_not_blamed (words : List String) (files : Files)
    (h : ∀ t ∈ (Environment.read v).token, Sendable t) (s : Session) (reason : String) :
    "Error: " ++ (Error.invalidToken reason).message ∉ (execute words v files s).complaints := by
  cases hp : CommandLine.parse words with
  | error stop =>
    simp only [execute, hp, stopped]
    split
    · next hx =>
      rw [List.mem_singleton]
      exact (CommandLine.Stop.message_ne hx _).symm
    · exact List.not_mem_nil
  | ok a =>
    cases hs : a.configSchema with
    | true =>
      simp only [execute, hp, hs, if_true]
      exact List.not_mem_nil
    | false =>
      rw [execute_of_parse hp hs]
      intro hm
      rcases List.mem_append.1 hm with hm | hm
      · exact warning_ne hm _ rfl
      · rw [credits] at hm
        split at hm
        · next fault _ =>
          exact append_ne (told_ne fault.exists_begins _ reason) (List.mem_singleton.1 hm).symm
        · split at hm
          · next failure _ hr =>
            have hb := Failure.exists_begins (isOfToken_of_run h hr)
            exact append_ne (told_ne hb _ reason) (List.mem_singleton.1 hm).symm
          · cases hm

/-- One holder speaks for a whole run. Without a token nobody does, a token that cannot be sent
ends the run before the first request, and any other token goes out with every request to an address
that does not name credentials of its own, save for a request that an answer sends on to another
server. -/
theorem execute_authorizes_alike (hg : Library.Guarded) (words : List String) (v : Variables)
    (files : Files) (network : Network) :
    let held := Environment.text? v "GITHUB_TOKEN"
    let out := execute words v files (.start network)
    let sent := out.session.requests
    ((∀ s ∈ held, s.isAllBlank = true) ∧ Speaks none (replies network) sent ∨
      Refused words v files out ∨
      ∃ s, held = some s ∧ s.isAllBlank = false ∧
        (Sendable s.trimBlank ∨ AsksForInformation words) ∧
        Speaks (some s.trimBlank) (replies network) sent) ∧
    ∀ s, held = some s →
      ((∃ c ∈ s.trimBlank.toList, (c.toNat < 0x20 ∨ c.toNat = 0x7F) ∧ c ≠ '\t') →
        ¬ AsksForInformation words → Refused words v files out) ∧
      (s.isAllBlank = false → s.trimBlank.toList.all Headers.isReadable = true →
        Speaks (some s.trimBlank) (replies network) sent ∧
        ∀ reason, "Error: " ++ (Error.invalidToken reason).message ∉ out.complaints) := by
  intro held out sent
  have hk := execute_speaks hg words v files network
  refine ⟨?_, fun s hs ↦ ⟨fun ⟨c, hc, hn, ht⟩ hw ↦ ?_, fun hb hr ↦ ?_⟩⟩
  · cases ht : (Environment.read v).token with
    | none => exact .inl ⟨Environment.token_eq_none_iff.1 ht, ht ▸ hk⟩
    | some token =>
      obtain ⟨s, hs, hb, rfl⟩ := Environment.token_eq_some_iff.1 ht
      by_cases hsend : Sendable s.trimBlank
      · exact .inr (.inr ⟨s, hs, hb, .inl hsend, ht ▸ hk⟩)
      · by_cases hw : AsksForInformation words
        · exact .inr (.inr ⟨s, hs, hb, .inr hw, ht ▸ hk⟩)
        · exact .inr (.inl (refused ht hsend hw network))
  · have hb := isAllBlank_eq_false_of_mem hc
    have htoken := Environment.token_eq_some_iff.2 ⟨s, hs, hb, rfl⟩
    refine refused htoken (fun hsend ↦ ?_) hw network
    have hx := List.all_eq_true.1 hsend c hc
    simp only [Client.isHeaderChar, Bool.or_eq_true, Bool.and_eq_true, decide_eq_true_eq,
      bne_iff_ne, beq_iff_eq] at hx
    rcases hx with ⟨hl, hd⟩ | hx
    · omega
    · exact ht hx
  · have htoken := Environment.token_eq_some_iff.2 ⟨s, hs, hb, rfl⟩
    have hall : ∀ t ∈ (Environment.read v).token, Sendable t := by
      intro t ht
      cases htoken.symm.trans ht
      exact .of_isReadable hr
    exact ⟨htoken ▸ hk, execute_not_blamed words files hall _⟩

/-- A run whose first page breaks off asks for nothing else. -/
theorem run_of_broken_listing {config : Config} {settings : Settings} {token : Option String}
    {c : Client} (hs : Settings.resolve a config = .ok settings)
    (hm : Client.make settings.apiUrl token = .ok c) {url : String}
    (hl : c.listingUrl settings.repository.owner settings.repository.name = url)
    (hu : IsWebUrl url) {replies : List Reply} {e : Error} (hb : Breaks url 0 (upcoming replies) e)
    (steps : List Event) :
    let out := run a config token ⟨.server replies, [], steps⟩
    out.1 = .error (.github e) ∧ out.2.requests = [c.request url] ∧
      out.2.trace = steps ++ opening settings token ++ [.get url] := by
  intro out
  subst hl
  have hd : Detour.Follows _ [] := ⟨hu, trivial, Nat.zero_le _⟩
  have hc : c.directory.list settings.repository.owner settings.repository.name
      ⟨.server replies, [], []⟩ = _ := c.listFrom_broken [] [] (leads_nil.2 rfl) hd hb
  have ho : out = _ := run_after hs token ⟨.server replies, [], steps⟩
  rw [ho, report, hm]
  simp only [collect, hc]
  exact ⟨rfl, rfl, rfl⟩

end Runs

theorem execute_authorizes_alike_moved :
    let v : Variables := fun name ↦
      if name = "GITHUB_TOKEN" then some (Text.Utf8.encode " t".toList) else none
    let moved : Response := ⟨301, [("Location", "http://else.test/")], some []⟩
    let network : Network := .server [.answer moved, .hangUp]
    Speaks (some "t") [.answer moved, .hangUp]
      (execute [] v (fun _ ↦ .absent) (.start network)).session.requests := by
  intro v moved network
  have hk := execute_authorizes_alike guarded_standardLibrary [] v (fun _ ↦ .absent) network
  have hs : Environment.text? v "GITHUB_TOKEN" = some " t" := by decide
  have ht : " t".trimBlank = "t" := by decide
  obtain ⟨hk, -⟩ := (hk.2 " t" hs).2 (by decide) (by decide)
  rwa [ht] at hk

/-- Credentials in the base address take the token's place, and go out where no token is held. -/
theorem execute_own_credentials :
    let words := ["--api-url", "http://u:p@h"]
    let url := "http://u:p@h/repos/dropwizard/dropwizard/contributors?per_page=100"
    let v (token : Option String) : Variables := fun name ↦
      if name = "GITHUB_TOKEN" then token.map (Text.Utf8.encode ·.toList) else none
    ∀ token ∈ [none, some "t"],
      (execute words (v token) (fun _ ↦ .absent) (.start (.server [.hangUp]))).session.requests =
        [⟨"GET", url, [("accept", "application/vnd.github+json"),
          ("user-agent", "ghcredits/0.1.0"), ("x-github-api-version", "2022-11-28"),
          ("authorization", "Basic dTpw")]⟩] := by
  intro words url v token ht
  let a : Arguments := ⟨none, none, false, none, some "http://u:p@h", false, false⟩
  let settings : Settings :=
    ⟨⟨"dropwizard", "dropwizard", by decide, by decide⟩, .link, .listed, "http://u:p@h"⟩
  let c : Client := ⟨"http://u:p@h", token⟩
  have hp : CommandLine.parse words = .ok a := rfl
  have hs : Settings.resolve a {} = .ok settings := rfl
  have htoken : (Environment.read (v token)).token = token := by
    rcases List.mem_pair.1 ht with rfl | rfl <;> decide
  have hm : Client.make settings.apiUrl token = .ok c := by
    rcases List.mem_pair.1 ht with rfl | rfl <;> decide
  have hl : c.listingUrl "dropwizard" "dropwizard" = url := by
    rcases List.mem_pair.1 ht with rfl | rfl <;> decide
  have hu : IsWebUrl url := by decide +kernel
  have hb : Breaks url 0 (upcoming [.hangUp]) (.request .unsent) := .hangUp
  obtain ⟨-, hr, -⟩ := run_of_broken_listing hs hm hl hu hb []
  have hconfig : configTold (fun _ ↦ .absent) (Environment.read (v token)).ownConfigDir
      (.start (.server [.hangUp])) = ⟨.server [.hangUp], [], []⟩ := rfl
  rw [execute_session hp rfl rfl, htoken, hconfig, hr]
  rcases List.mem_pair.1 ht with rfl | rfl <;> decide +kernel

end Program

end CreditRoll
