import CreditRoll.Program
import CreditRoll.Proofs.Listing

namespace CreditRoll

namespace Collection

variable {σ τ : Type}

/-- A translation of states under which one directory does what another one does. -/
structure Translation (d : Directory σ) (d' : Directory τ) where
  state : σ → τ
  list : ∀ owner name s, d'.list owner name (state s) = Prod.map id state (d.list owner name s)
  profile : ∀ login s, d'.profile login (state s) = Prod.map id state (d.profile login s)
  note : ∀ event s, d'.note event (state s) = state (d.note event s)

variable {d : Directory σ} {d' : Directory τ} (T : Translation d d')

theorem resolve_translated (seen : List String) (entries : List Entry) (s : σ) :
    resolve d' seen entries (T.state s) = Prod.map id T.state (resolve d seen entries s) := by
  induction entries generalizing seen s with
  | nil => rfl
  | cons entry entries ih =>
    simp only [resolve, T.profile, T.note, ih]
    split
    · rfl
    · rcases d.profile entry.login s with ⟨e | profile, s⟩
      · rfl
      · simp only [Prod.map, id, T.note, ih]

theorem collect_translated (repository : Repository) (order : Order) (s : σ) :
    collect d' repository order (T.state s) =
      Prod.map id T.state (collect d repository order s) := by
  simp only [collect, T.list]
  rcases d.list repository.owner repository.name s with ⟨e | entries, s⟩
  · rfl
  · simp only [Prod.map, id, T.note, resolve_translated]

end Collection

namespace Github

open Collection Http Url

section Retellings

variable [Idna] [Library]

namespace Client

/-- A change of sessions that goes along with every step of two clients at one base. -/
structure Retelling (c c' : Client) where
  state : Session → Session
  retell : Request → Request
  base : c'.base = c.base
  request : ∀ url, retell (c.request url) = c'.request url
  url : ∀ q, (retell q).url = q.url
  redirected : ∀ (q : Request) (asked : List String) (target : String),
    retell (q.redirected asked target) = (retell q).redirected asked target
  note : ∀ event s, (state s).note event = state (s.note event)
  send : ∀ q s, (state s).send (retell q) = Prod.map id state (s.send q)

namespace Retelling

variable {c c' : Client} (R : Retelling c c')

include R in
theorem url_eq (path : String) : c'.url path = c.url path := by
  rw [Client.url, R.base]
  rfl

theorem get_retold (url : String) (s : Session) :
    c'.get url (R.state s) = Prod.map id R.state (c.get url s) := by
  simp only [get, R.note]
  cases addressFault? url with
  | some fault => rfl
  | none =>
    simp only [← R.request, Session.follow_retold R.url R.redirected R.send]
    rcases (s.note (.get url)).follow (c.request url) Request.maxRedirects [] (c.request url) with
      ⟨fault | response, s'⟩
    · rfl
    · rfl

theorem page_retold (url : String) (s : Session) :
    c'.page url (R.state s) = Prod.map id R.state (c.page url s) := by
  simp only [page, R.get_retold]
  rcases c.get url s with ⟨e | response, s⟩
  · rfl
  · simp only [Prod.map, id]
    split
    · rfl
    · cases response.body >>= Wire.page? with
      | none => rfl
      | some entries => simp only [R.note]

theorem listFrom_retold (url : String) (s : Session) :
    c'.listFrom url (R.state s) = Prod.map id R.state (c.listFrom url s) := by
  induction url, s using listFrom.induct c with
  | case1 url s e s' h =>
    have hp := R.page_retold url s
    rw [h] at hp
    rw [listFrom_error c h, listFrom_error c' hp]
    rfl
  | case2 url s entries s' h =>
    have hp := R.page_retold url s
    rw [h] at hp
    rw [listFrom_last c h, listFrom_last c' hp]
    rfl
  | case3 url s entries next s' h _ _ _ ih =>
    have hp := R.page_retold url s
    rw [h] at hp
    rw [listFrom_next c h, listFrom_next c' hp, ih]
    rfl

theorem profile_retold (login : String) (s : Session) :
    c'.profile login (R.state s) = Prod.map id R.state (c.profile login s) := by
  have hu : c'.profileUrl login = c.profileUrl login := R.url_eq _
  simp only [profile, hu, R.get_retold]
  rcases c.get (c.profileUrl login) s with ⟨e | response, s⟩
  · rfl
  · simp only [Prod.map, id]
    cases response.body >>= Wire.profile? <;> rfl

def translation : Translation c.directory c'.directory where
  state := R.state
  list owner name s := by
    have hu : c'.listingUrl owner name = c.listingUrl owner name := R.url_eq _
    simp only [directory, list, hu, R.listFrom_retold]
  profile := R.profile_retold
  note := R.note

end Retelling

end Client

def Session.after (steps : List Event) (s : Session) : Session :=
  { s with trace := steps ++ s.trace }

def Client.Retelling.after (c : Client) (steps : List Event) : Retelling c c where
  state := Session.after steps
  retell := id
  base := rfl
  request _ := rfl
  url _ := rfl
  redirected _ _ _ := rfl
  note event s := by simp only [Session.after, Session.note, List.append_assoc]
  send _ _ := rfl

end Retellings

end Github

namespace Program

open CommandLine (Arguments)
open Collection Github Http Url

variable [Idna] [Library]

/-- A report is retold as its collection is. -/
theorem report_retold {settings : Settings} {token token' : Option String} {c c' : Client}
    (h : Client.make settings.apiUrl token = .ok c)
    (h' : Client.make settings.apiUrl token' = .ok c') (R : Client.Retelling c c') (s : Session) :
    report settings token' (R.state s) = Prod.map id R.state (report settings token s) := by
  have hc : collect c'.directory settings.repository settings.order (R.state s) =
      Prod.map id R.state (collect c.directory settings.repository settings.order s) :=
    collect_translated R.translation settings.repository settings.order s
  simp only [report, h, h', hc]
  rcases collect c.directory settings.repository settings.order s with ⟨e | credits, t⟩ <;> rfl

theorem report_after (settings : Settings) (token : Option String) (steps : List Event)
    (s : Session) :
    report settings token (s.after steps) =
      Prod.map id (Session.after steps) (report settings token s) := by
  cases hm : Client.make settings.apiUrl token with
  | error e =>
    simp only [report, hm]
    rfl
  | ok client => exact report_retold hm hm (.after client steps) s

def opening (settings : Settings) (token : Option String) : List Event :=
  .settingsResolved settings :: if token.isNone then [.anonymous] else []

/-- The settings are told first, and all that is told after them is told in the same words. -/
theorem run_after {a : Arguments} {config : Config} {settings : Settings}
    (hs : Settings.resolve a config = .ok settings) (token : Option String) (s : Session) :
    run a config token s =
      Prod.map id (Session.after (s.trace ++ opening settings token))
        (report settings token { s with trace := [] }) := by
  rw [← report_after]
  simp only [run, hs, opening]
  cases token.isNone <;> simp [Session.after, Session.note]

end Program

end CreditRoll
