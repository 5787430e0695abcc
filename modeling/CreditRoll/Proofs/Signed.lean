import CreditRoll.Program
import CreditRoll.Proofs.Retelling
import Mathlib.Data.List.Forall2

namespace CreditRoll

namespace Github

open Collection Http Url

def authorization (token : String) : String × String := ("authorization", "Bearer " ++ token)

def resign (t t' : String) (field : String × String) : String × String :=
  if field = authorization t then authorization t' else field

def resigned (t t' : String) (q : Request) : Request :=
  { q with headers := q.headers.map (resign t t') }

def Session.resigned (t t' : String) (s : Session) : Session :=
  { s with requests := s.requests.map (Github.resigned t t') }

theorem resign_fst (t t' : String) (field : String × String) :
    (resign t t' field).1 = field.1 := by
  unfold resign
  split
  · next h => rw [h]; rfl
  · rfl

theorem resign_of_ne (t t' : String) {field : String × String} (h : field.1 ≠ "authorization") :
    resign t t' field = field := by
  refine if_neg ?_
  rintro rfl
  exact h rfl

theorem map_resign (t t' : String) {fields : Headers}
    (h : ∀ field ∈ fields, field.1 ≠ "authorization") : fields.map (resign t t') = fields :=
  (List.map_congr_left fun field hm ↦ resign_of_ne t t' (h field hm)).trans (List.map_id fields)

theorem resign_basic (t t' : String) (c : Credentials) :
    resign t t' ("authorization", c.basic) = ("authorization", c.basic) := by
  refine if_neg fun h ↦ ?_
  have hv : c.basic = "Bearer " ++ t := congrArg Prod.snd h
  have hl := congrArg String.toList hv
  have hb : "Basic ".toList = ['B', 'a', 's', 'i', 'c', ' '] := rfl
  have ht : "Bearer ".toList = ['B', 'e', 'a', 'r', 'e', 'r', ' '] := rfl
  simp only [Credentials.basic, String.toList_append, hb, ht] at hl
  exact absurd (List.cons.inj (List.cons.inj hl).2).1 (by decide)

theorem resigned_redirected [Library] (t t' : String) (q : Request) (asked : List String)
    (target : String) :
    resigned t t' (q.redirected asked target) = (resigned t t' q).redirected asked target := by
  have hr : ((Library.referer? asked target).toList.map ("referer", ·)).map (resign t t') =
      (Library.referer? asked target).toList.map ("referer", ·) := by
    refine map_resign t t' (List.forall_mem_map.2 fun address _ ↦ ?_)
    have hn : "referer" ≠ "authorization" := by decide
    exact hn
  simp only [resigned, Request.redirected, List.map_append, hr, List.filter_map,
    Function.comp_def, resign_fst]

section Clients

variable [Idna]

theorem resigned_request (c : Client) {t : String} (h : c.token = some t) (t' url : String) :
    resigned t t' (c.request url) = { c with token := some t' }.request url := by
  let fields : Headers := [("accept", "application/vnd.github+json"),
    ("user-agent", "ghcredits/" ++ Client.version), ("x-github-api-version", "2022-11-28")]
  have hk : fields.map (resign t t') = fields := by
    refine map_resign t t' ?_
    simp [fields]
  simp only [resigned, Client.request, Client.headersFor]
  cases Address.parse? url >>= Address.credentials? with
  | some credentials =>
    have hh : { c with token := none }.headers ++ [("authorization", credentials.basic)] =
        fields ++ [("authorization", credentials.basic)] := rfl
    simp only [hh, List.map_append, hk, List.map_singleton, resign_basic]
  | none =>
    have hh : c.headers = fields ++ [authorization t] := by
      rw [Client.headers, h]
      rfl
    have ha : resign t t' (authorization t) = authorization t' := if_pos rfl
    simp only [hh, List.map_append, hk, List.map_singleton, ha]
    rfl

variable [Library]

def Client.Retelling.resigned (c : Client) {t : String} (h : c.token = some t) (t' : String) :
    Retelling c { c with token := some t' } where
  state := Session.resigned t t'
  retell := Github.resigned t t'
  base := rfl
  request := resigned_request c h t'
  url _ := rfl
  redirected := resigned_redirected t t'
  note _ _ := rfl
  send q s := by
    cases ha : s.network.exchange.2.1 with
    | true => simp [Session.send, Session.resigned, ha]
    | false => simp [Session.send, Session.resigned, ha]

end Clients

/-- Requests that differ at most in whom they say that they come from. -/
structure SameButAuthorization (r r' : Request) : Prop where
  method : r'.method = r.method
  url : r'.url = r.url
  headers : List.Forall₂ (fun field field' ↦
    field'.1 = field.1 ∧ (field.1 ≠ "authorization" → field'.2 = field.2)) r.headers r'.headers

theorem sameButAuthorization_resigned (t t' : String) (q : Request) :
    SameButAuthorization q (resigned t t' q) := by
  refine ⟨rfl, rfl, List.forall₂_map_right_iff.2 (List.forall₂_same.2 fun field _ ↦ ?_)⟩
  exact ⟨resign_fst t t' field, fun hn ↦ congrArg Prod.snd (resign_of_ne t t' hn)⟩

structure Session.Alike (s s' : Session) : Prop where
  network : s'.network = s.network
  trace : s'.trace = s.trace
  requests : List.Forall₂ SameButAuthorization s.requests s'.requests

theorem Session.alike_resigned (t t' : String) (s : Session) : Session.Alike s (s.resigned t t') :=
  ⟨rfl, rfl, List.forall₂_map_right_iff.2
    (List.forall₂_same.2 fun q _ ↦ sameButAuthorization_resigned t t' q)⟩

def Sendable (token : String) : Prop := token.toList.all Client.isHeaderChar = true

theorem Client.make_of_sendable (base : String) {token : Option String}
    (h : ∀ t ∈ token, Sendable t) :
    make base token =
      if isWebBase (dropSlashes base) then .ok ⟨dropSlashes base, token⟩
      else .error (.invalidBase (dropSlashes base)) := by
  have hn : token.any (!·.toList.all isHeaderChar) = false := by
    cases token with
    | none => rfl
    | some t =>
      have ht : t.toList.all isHeaderChar = true := h t rfl
      simp only [Option.any_some, ht, Bool.not_true]
  simp only [make, hn]
  cases isWebBase (dropSlashes base) <;> rfl

end Github

namespace Program

open CommandLine (Arguments)
open Collection Github Http Url

section Runs

variable [Idna] [Library] {t t' : String}

theorem report_resigned (settings : Settings) (h : Sendable t) (h' : Sendable t') (s : Session) :
    report settings (some t') (s.resigned t t') =
      Prod.map id (Session.resigned t t') (report settings (some t) s) := by
  have ht : ∀ token ∈ some t, Sendable token := by simpa using h
  have ht' : ∀ token ∈ some t', Sendable token := by simpa using h'
  have hm := Client.make_of_sendable settings.apiUrl ht
  have hm' := Client.make_of_sendable settings.apiUrl ht'
  cases hb : Client.isWebBase (Client.dropSlashes settings.apiUrl) with
  | false =>
    simp only [report, hm, hm', hb, Bool.false_eq_true, if_false]
    rfl
  | true =>
    rw [hb] at hm hm'
    exact report_retold hm hm' (.resigned _ rfl t') s

theorem run_resigned (a : Arguments) (config : Config) (h : Sendable t) (h' : Sendable t')
    (s : Session) :
    run a config (some t') (s.resigned t t') =
      Prod.map id (Session.resigned t t') (run a config (some t) s) := by
  simp only [run]
  cases Settings.resolve a config with
  | error e => rfl
  | ok settings =>
    simp only [← report_resigned settings h h']
    rfl

def Outcome.resigned (t t' : String) (out : Outcome) : Outcome :=
  { out with session := out.session.resigned t t' }

/-- What a run shows does not depend on its token, only what it sends does. -/
theorem execute_resigned (words : List String) {v v' : Variables} (files : Files)
    (hc : (Environment.read v').configDir = (Environment.read v).configDir)
    (hl : (Environment.read v').log = (Environment.read v).log)
    (ht : (Environment.read v).token = some t) (ht' : (Environment.read v').token = some t')
    (h : Sendable t) (h' : Sendable t') (s : Session) :
    execute words v' files (s.resigned t t') = (execute words v files s).resigned t t' := by
  simp only [execute]
  cases CommandLine.parse words with
  | error stop =>
    simp only [stopped]
    split <;> rfl
  | ok a =>
    simp only [hl, ht, ht', credits, Environment.ownConfigDir, hc]
    cases a.configSchema with
    | true => rfl
    | false =>
      let dir := (Environment.read v).configDir.map (Path.join · "ghcredits")
      have hs : configTold files dir (s.resigned t t') = (configTold files dir s).resigned t t' := by
        unfold configTold
        cases Config.source? files dir <;> rfl
      simp only [dir] at hs
      rw [hs]
      cases Config.load files ((Environment.read v).configDir.map (Path.join · "ghcredits")) with
      | error fault => rfl
      | ok config =>
        simp only [run_resigned a config h h']
        rcases run a config (some t) (configTold files dir s) with ⟨failure | text, s⟩ <;> rfl

/-- Two tokens that can be sent lead to runs that show the same, and that send the same apart from
the tokens themselves. -/
theorem execute_hides_token (h : Sendable t) (h' : Sendable t') (network : Http.Network) :
    (∀ (a : Arguments) (config : Config),
      let out := run a config (some t) (.start network)
      let out' := run a config (some t') (.start network)
      out'.1 = out.1 ∧ Session.Alike out.2 out'.2) ∧
    ∀ (v v' : Variables), (∀ name, name ≠ "GITHUB_TOKEN" → v' name = v name) →
      (Environment.read v).token = some t → (Environment.read v').token = some t' →
      ∀ (words : List String) (files : Files),
        let out := execute words v files (.start network)
        let out' := execute words v' files (.start network)
        out'.exitCode = out.exitCode ∧ out'.output = out.output ∧
          out'.complaints = out.complaints ∧ Session.Alike out.session out'.session := by
  refine ⟨fun a config ↦ ?_, fun v v' hv ht ht' words files ↦ ?_⟩
  · have hr : run a config (some t') (.start network) =
        Prod.map id (Session.resigned t t') (run a config (some t) (.start network)) :=
      run_resigned a config h h' (.start network)
    rw [hr]
    exact ⟨rfl, Session.alike_resigned t t' _⟩
  · have hl : (Environment.read v').log = (Environment.read v).log := by
      simp only [Environment.read, Environment.notBlank?, Environment.text?,
        hv "GHCREDITS_LOG" (by decide)]
    have hc : (Environment.read v').configDir = (Environment.read v).configDir := by
      simp only [Environment.read, Environment.configDir?, Environment.notEmpty?,
        Environment.text?, hv "XDG_CONFIG_HOME" (by decide), hv "HOME" (by decide)]
    have hr : execute words v' files (.start network) =
        (execute words v files (.start network)).resigned t t' :=
      execute_resigned words files hc hl ht ht' h h' (.start network)
    rw [hr]
    exact ⟨rfl, rfl, rfl, Session.alike_resigned t t' _⟩

end Runs

theorem execute_hides_token_hung_up :
    let v (token : String) : Variables := fun name ↦
      if name = "GITHUB_TOKEN" then some (Text.Utf8.encode token.toList) else none
    let out (token : String) :=
      execute ["--repo", "o/r"] (v token) (fun _ ↦ .absent) (.start (.server [.hangUp]))
    (out "u").complaints = (out "t").complaints ∧
      Session.Alike (out "t").session (out "u").session := by
  intro v out
  have hv : ∀ name, name ≠ "GITHUB_TOKEN" → v "u" name = v "t" name := by
    intro name hne
    simp only [v, if_neg hne]
  have h : Sendable "t" := rfl
  have h' : Sendable "u" := rfl
  obtain ⟨-, -, hc, hs⟩ := (execute_hides_token h h' (.server [.hangUp])).2 (v "t") (v "u") hv
    (by decide) (by decide) ["--repo", "o/r"] (fun _ ↦ .absent)
  exact ⟨hc, hs⟩

end Program

end CreditRoll
