import CreditRoll.Github.Session
import CreditRoll.Http.Transport

namespace CreditRoll.Github

open Http Url

/-- What a script does with the next request: its first reply, or the answer of a script that is
used up. -/
def upcoming (replies : List Reply) : Reply := replies.headD (.answer Network.exhausted)

theorem Session.send_server (request : Request) (replies : List Reply) (sent : List Request)
    (steps : List Event) :
    (Session.mk (.server replies) sent steps).send request =
      (match upcoming replies with
        | .hangUp => none
        | .answer r => some r.delivered,
        ⟨.server replies.tail, sent ++ [request], steps⟩) := by
  cases replies with
  | nil => rfl
  | cons reply replies => cases reply <;> rfl

/-- Answers that send a request on, each with the address that they send it to. -/
abbrev Detour := List (Response × String)

namespace Detour

def replies (d : Detour) : List Reply := d.map (.answer ·.1)

def place : String → Detour → String
  | url, [] => url
  | _, hop :: d => place hop.2 d

def requests [Library] (first : Request) : List String → Detour → List Request
  | _, [] => []
  | asked, hop :: d => first.redirected asked hop.2 :: requests first (hop.2 :: asked) d

theorem length_replies (d : Detour) : d.replies.length = d.length := List.length_map _

theorem length_requests [Library] (first : Request) (asked : List String) (d : Detour) :
    (d.requests first asked).length = d.length := by
  induction d generalizing asked with
  | nil => rfl
  | cons hop d ih => simp only [requests, List.length_cons, ih]

end Detour

theorem isRedirect_of_isSuccess {r : Response} (h : r.isSuccess = true) :
    r.isRedirect = false := by
  simp only [Response.isSuccess, Bool.and_eq_true, decide_eq_true_eq] at h
  simp only [Response.isRedirect, List.contains_eq_mem, List.mem_cons, List.not_mem_nil, or_false,
    decide_eq_false_iff_not]
  omega

section Redirects

variable [Library]

theorem target?_delivered (url : String) (r : Response) :
    r.delivered.target? url = r.target? url := by
  unfold Response.delivered
  split <;> rfl

theorem target?_of_not_isRedirect {r : Response} (h : r.isRedirect = false) (url : String) :
    r.target? url = none := by
  rw [Response.target?, h]
  rfl

theorem target?_of_isSuccess {r : Response} (h : r.isSuccess = true) (url : String) :
    r.target? url = none :=
  target?_of_not_isRedirect (isRedirect_of_isSuccess h) url

end Redirects

section Scripts

variable [Idna]

def IsWebUrl (url : String) : Prop := Client.addressFault? url = none

instance : DecidablePred IsWebUrl := fun url ↦
  inferInstanceAs (Decidable (Client.addressFault? url = none))

variable [Library]

def hop? (url : String) : Reply → Option (Response × String)
  | .hangUp => none
  | .answer r => ((r.target? url).filter (IsWebUrl ·)).map (r, ·)

def detour : (hops : Nat) → (url : String) → List Reply → Detour
  | 0, _, _ => []
  | hops + 1, url, replies =>
    match hop? url (upcoming replies) with
    | some hop => hop :: detour hops hop.2 replies.tail
    | none => []

def arrival (url : String) : Reply → Except RequestFault Response
  | .hangUp => .error .unsent
  | .answer r =>
    match r.target? url with
    | none => .ok r.delivered
    | some target => .error ((Client.addressFault? target).getD (.endless (shown url)))

theorem hop?_eq_some_iff {url : String} {reply : Reply} {hop : Response × String} :
    hop? url reply = some hop ↔
      reply = .answer hop.1 ∧ hop.1.target? url = some hop.2 ∧ IsWebUrl hop.2 := by
  cases reply with
  | hangUp => simp [hop?]
  | answer r =>
    obtain ⟨r', target⟩ := hop
    simp only [hop?, Option.map_eq_some_iff, Option.filter_eq_some_iff, decide_eq_true_eq,
      Prod.mk.injEq, Reply.answer.injEq]
    constructor
    · rintro ⟨_, ⟨ht, hw⟩, rfl, rfl⟩
      exact ⟨rfl, ht, hw⟩
    · rintro ⟨rfl, ht, hw⟩
      exact ⟨target, ⟨ht, hw⟩, rfl, rfl⟩

theorem eq_cons_of_hop? {url : String} {replies : List Reply} {hop : Response × String}
    (h : hop? url (upcoming replies) = some hop) :
    replies = .answer hop.1 :: replies.tail := by
  obtain ⟨hr, ht, -⟩ := hop?_eq_some_iff.1 h
  cases replies with
  | nil =>
    have he : Network.exhausted = hop.1 := Reply.answer.inj hr
    rw [← he, Network.target?_exhausted] at ht
    cases ht
  | cons reply replies => exact congrArg (· :: replies) hr

theorem hop?_of_isSuccess {r : Response} (h : r.isSuccess = true) (url : String) :
    hop? url (.answer r) = none := by
  simp [hop?, target?_of_isSuccess h]

theorem arrival_of_hop?_eq_none {url : String} {r : Response} (h : hop? url (.answer r) = none)
    {target : String} (ht : r.target? url = some target) :
    ∃ fault, Client.addressFault? target = some fault ∧
      arrival url (.answer r) = .error fault := by
  cases hf : Client.addressFault? target with
  | none =>
    have hw : IsWebUrl target := hf
    simp [hop?, ht, hw] at h
  | some fault => exact ⟨fault, rfl, by simp [arrival, ht, hf]⟩

namespace Detour

def Leads : String → Detour → Prop
  | _, [] => True
  | url, hop :: d => hop? url (.answer hop.1) = some hop ∧ Leads hop.2 d

/-- The redirects are such as a request for the address is put through. -/
structure Follows (url : String) (d : Detour) : Prop where
  web : IsWebUrl url
  leads : d.Leads url
  few : d.length ≤ Request.maxRedirects

/-- After the redirects a reply sends the request no further, or else there are too many of them. -/
def Stops (hops : Nat) (url : String) (d : Detour) (reply : Reply) : Prop :=
  d.length < hops → hop? (d.place url) reply = none

theorem leads_detour (hops : Nat) (url : String) (replies : List Reply) :
    (detour hops url replies).Leads url ∧ (detour hops url replies).length ≤ hops := by
  induction hops generalizing url replies with
  | zero => exact ⟨trivial, Nat.le_refl 0⟩
  | succ hops ih =>
    rw [detour]
    cases h : hop? url (upcoming replies) with
    | none => exact ⟨trivial, Nat.zero_le _⟩
    | some hop =>
      have hr := (hop?_eq_some_iff.1 h).1
      exact ⟨⟨hr ▸ h, (ih hop.2 replies.tail).1⟩, Nat.succ_le_succ (ih hop.2 replies.tail).2⟩

theorem replies_detour (hops : Nat) (url : String) (replies : List Reply) :
    (detour hops url replies).replies ++ replies.drop (detour hops url replies).length =
      replies := by
  induction hops generalizing url replies with
  | zero => rfl
  | succ hops ih =>
    rw [detour]
    cases h : hop? url (upcoming replies) with
    | none => rfl
    | some hop =>
      rw [eq_cons_of_hop? h]
      exact congrArg (.answer hop.1 :: ·) (ih hop.2 replies.tail)

theorem stops_detour (hops : Nat) (url : String) (replies : List Reply) :
    Stops hops url (detour hops url replies)
      (upcoming (replies.drop (detour hops url replies).length)) := by
  induction hops generalizing url replies with
  | zero => exact fun h ↦ absurd h (Nat.not_lt_zero _)
  | succ hops ih =>
    rw [detour]
    cases h : hop? url (upcoming replies) with
    | none => exact fun _ ↦ h
    | some hop =>
      rw [eq_cons_of_hop? h]
      exact fun hl ↦ ih hop.2 replies.tail (Nat.lt_of_succ_lt_succ hl)

/-- A script that begins with redirects, up to a reply that stops, has these for a request and no
others. -/
theorem detour_eq {hops : Nat} {url : String} {d : Detour} {rest : List Reply} (hl : d.Leads url)
    (hd : d.length ≤ hops) (hs : d.Stops hops url (upcoming rest)) :
    detour hops url (d.replies ++ rest) = d := by
  induction d generalizing hops url with
  | nil =>
    cases hops with
    | zero => rfl
    | succ hops =>
      have hn : hop? url (upcoming rest) = none := hs (Nat.succ_pos hops)
      have hr : replies [] ++ rest = rest := rfl
      rw [hr, detour, hn]
  | cons hop d ih =>
    cases hops with
    | zero => cases hd
    | succ hops =>
      have hr : replies (hop :: d) ++ rest = .answer hop.1 :: (replies d ++ rest) := rfl
      have hn : hop? url (upcoming (.answer hop.1 :: (replies d ++ rest))) = some hop := hl.1
      rw [hr, detour, hn]
      exact congrArg (hop :: ·)
        (ih hl.2 (Nat.le_of_succ_le_succ hd) fun h ↦ hs (Nat.succ_lt_succ h))

end Detour

/-- Whatever redirects a script has for a request, the request is put through them. -/
theorem Session.follow_server (first request : Request) (hops : Nat) (asked : List String)
    (replies : List Reply) (sent : List Request) (steps : List Event) :
    (Session.mk (.server replies) sent steps).follow first hops asked request =
      let d := detour hops request.url replies
      (arrival (d.place request.url) (upcoming (replies.drop d.length)),
        ⟨.server (replies.drop (d.length + 1)),
          sent ++ request :: d.requests first (request.url :: asked), steps⟩) := by
  induction hops generalizing request asked replies sent with
  | zero =>
    have hd : detour 0 request.url replies = [] := rfl
    rw [follow, send_server, hd]
    simp only [Detour.place, Detour.requests, List.length_nil, List.drop_zero, Nat.zero_add,
      List.drop_one]
    cases upcoming replies with
    | hangUp => rfl
    | answer r =>
      simp only [arrival, target?_delivered]
      cases r.target? request.url with
      | none => rfl
      | some target =>
        simp only
        cases Client.addressFault? target <;> rfl
  | succ hops ih =>
    rw [follow, send_server, detour]
    cases hh : hop? request.url (upcoming replies) with
    | none =>
      simp only [Detour.place, Detour.requests, List.length_nil, List.drop_zero, Nat.zero_add,
        List.drop_one]
      cases hr : upcoming replies with
      | hangUp => rfl
      | answer r =>
        simp only [target?_delivered]
        cases ht : r.target? request.url with
        | none => simp only [arrival, ht]
        | some target =>
          rw [hr] at hh
          obtain ⟨fault, hf, ha⟩ := arrival_of_hop?_eq_none hh ht
          simp only [hf, ha]
    | some hop =>
      obtain ⟨hr, ht, hw⟩ := hop?_eq_some_iff.1 hh
      have hf : Client.addressFault? hop.2 = none := hw
      simp only [hr, target?_delivered, ht, hf, ih, Detour.place, Detour.requests,
        List.length_cons, List.drop_tail, List.append_assoc, List.singleton_append]
      rfl

/-- What can be said of a request in other words is said so of those that it is sent on as. -/
theorem Session.follow_retold {state : Session → Session} {retell : Request → Request}
    (hu : ∀ q, (retell q).url = q.url)
    (hr : ∀ q asked target, retell (q.redirected asked target) = (retell q).redirected asked target)
    (hs : ∀ q s, (state s).send (retell q) = Prod.map id state (s.send q))
    (first request : Request) (hops : Nat) (asked : List String) (s : Session) :
    (state s).follow (retell first) hops asked (retell request) =
      Prod.map id state (s.follow first hops asked request) := by
  induction hops generalizing request asked s with
  | zero =>
    rw [follow, follow, hs, hu]
    rcases s.send request with ⟨_ | response, s⟩
    · rfl
    · simp only [Prod.map, id]
      cases response.target? request.url with
      | none => rfl
      | some target =>
        simp only
        cases Client.addressFault? target <;> rfl
  | succ hops ih =>
    rw [follow, follow, hs, hu]
    rcases s.send request with ⟨_ | response, s⟩
    · rfl
    · simp only [Prod.map, id]
      cases response.target? request.url with
      | none => rfl
      | some target =>
        simp only
        cases Client.addressFault? target with
        | some fault => rfl
        | none =>
          simp only [← hr, ih]
          rfl

def redirects (url : String) (replies : List Reply) : Detour :=
  detour Request.maxRedirects url replies

def lastReply (url : String) (replies : List Reply) : Reply :=
  upcoming (replies.drop (redirects url replies).length)

def left (url : String) (replies : List Reply) : List Reply :=
  replies.drop ((redirects url replies).length + 1)

def outcome : Except RequestFault Response → Except Error Response
  | .error fault => .error (.request fault)
  | .ok r => Status.check r

def arrived (url : String) (replies : List Reply) : Except RequestFault Response :=
  arrival ((redirects url replies).place url) (lastReply url replies)

def heard (url : String) (replies : List Reply) : Except Error Response :=
  outcome (arrived url replies)

def Client.along (c : Client) (url : String) (d : Detour) : List Request :=
  c.request url :: d.requests (c.request url) [url]

def Client.asks (c : Client) (url : String) (replies : List Reply) : List Request :=
  c.along url (redirects url replies)

theorem Client.length_along (c : Client) (url : String) (d : Detour) :
    (c.along url d).length = d.length + 1 := by
  rw [along, List.length_cons, Detour.length_requests]

theorem Client.get_fault (c : Client) {url : String} {fault : RequestFault}
    (h : addressFault? url = some fault) (s : Session) :
    c.get url s = (.error (.request fault), s.note (.get url)) := by
  simp only [get, h]

/-- A page that cannot be had is one that could not be got or could not be read. -/
theorem Client.page_error (c : Client) {url : String} {s s' : Session} {e : Error}
    (h : c.page url s = (.error e, s')) :
    c.get url s = (.error e, s') ∨
      e = .request .unreadable ∧ ∃ r, c.get url s = (.ok r, s') := by
  unfold page at h
  split at h
  · next hg =>
    cases h
    exact .inl hg
  · next r _ hg =>
    split at h
    · cases h
    · split at h <;> cases h
      exact .inr ⟨rfl, r, hg⟩

theorem Client.profile_error (c : Client) {login : String} {s s' : Session} {e : Error}
    (h : c.profile login s = (.error e, s')) :
    c.get (c.profileUrl login) s = (.error e, s') ∨
      e = .request .unreadable ∧ ∃ r, c.get (c.profileUrl login) s = (.ok r, s') := by
  unfold profile at h
  split at h
  · next hg =>
    cases h
    exact .inl hg
  · next r _ hg =>
    split at h <;> cases h
    exact .inr ⟨rfl, r, hg⟩

/-- Getting something from a script takes one reply from it, and one more for each redirect. -/
theorem Client.get_server (c : Client) {url : String} (h : IsWebUrl url)
    (replies : List Reply) (sent : List Request) (steps : List Event) :
    c.get url ⟨.server replies, sent, steps⟩ =
      (heard url replies,
        ⟨.server (left url replies), sent ++ c.asks url replies, steps ++ [.get url]⟩) := by
  have hf : addressFault? url = none := h
  have hu : (c.request url).url = url := rfl
  simp only [get, hf, Session.note, Session.follow_server, hu, heard, arrived, outcome, lastReply,
    left, asks, along, redirects]
  cases arrival _ _ <;> rfl

/-- Every script has some redirects for a request, and then comes a reply that stops. -/
theorem exists_follows {url : String} (h : IsWebUrl url) (replies : List Reply) :
    ∃ (d : Detour) (rest : List Reply), replies = d.replies ++ rest ∧ d.Follows url ∧
      d.Stops Request.maxRedirects url (upcoming rest) := by
  obtain ⟨hl, hn⟩ := Detour.leads_detour Request.maxRedirects url replies
  exact ⟨_, _, (Detour.replies_detour _ url replies).symm, ⟨h, hl, hn⟩,
    Detour.stops_detour _ url replies⟩

section Follows

variable {url : String} {d : Detour} {rest : List Reply}

theorem Detour.Follows.redirects_eq (h : d.Follows url)
    (hs : d.Stops Request.maxRedirects url (upcoming rest)) :
    redirects url (d.replies ++ rest) = d :=
  detour_eq h.leads h.few hs

theorem Detour.Follows.lastReply_eq (h : d.Follows url)
    (hs : d.Stops Request.maxRedirects url (upcoming rest)) :
    lastReply url (d.replies ++ rest) = upcoming rest := by
  rw [lastReply, h.redirects_eq hs, ← d.length_replies, List.drop_left]

theorem Detour.Follows.left_eq (h : d.Follows url)
    (hs : d.Stops Request.maxRedirects url (upcoming rest)) :
    left url (d.replies ++ rest) = rest.tail := by
  rw [left, h.redirects_eq hs, ← List.drop_drop, ← d.length_replies, List.drop_left, List.drop_one]

theorem Detour.Follows.heard_eq (h : d.Follows url)
    (hs : d.Stops Request.maxRedirects url (upcoming rest)) :
    heard url (d.replies ++ rest) = outcome (arrival (d.place url) (upcoming rest)) := by
  rw [heard, arrived, h.redirects_eq hs, h.lastReply_eq hs]

theorem Detour.Follows.asks_eq (h : d.Follows url)
    (hs : d.Stops Request.maxRedirects url (upcoming rest)) (c : Client) :
    c.asks url (d.replies ++ rest) = c.along url d := by
  rw [Client.asks, h.redirects_eq hs]

end Follows

/-- A request for an address with the redirects that it is put through, and the answer that it comes
to in the end. -/
structure Visit where
  url : String
  detour : Detour
  answer : Response
  follows : detour.Follows url
  final : answer.target? (detour.place url) = none

def Visit.direct {url : String} (h : IsWebUrl url) {r : Response} (hr : r.isRedirect = false) :
    Visit :=
  ⟨url, [], r, ⟨h, trivial, Nat.zero_le _⟩, target?_of_not_isRedirect hr url⟩

def Client.sends (c : Client) (v : Visit) : List Request := c.along v.url v.detour

namespace Visit

variable (v : Visit) (rest : List Reply)

def replies : List Reply := v.detour.replies ++ [.answer v.answer]

theorem stops : v.detour.Stops Request.maxRedirects v.url
    (upcoming (.answer v.answer :: rest)) := by
  intro _
  simp [upcoming, hop?, v.final]

theorem replies_append : v.replies ++ rest = v.detour.replies ++ .answer v.answer :: rest := by
  rw [replies, List.append_assoc, List.singleton_append]

theorem length_replies : v.replies.length = v.detour.length + 1 := by
  rw [replies, List.length_append, v.detour.length_replies, List.length_singleton]

theorem length_sends (c : Client) : (c.sends v).length = v.replies.length := by
  rw [Client.sends, c.length_along, v.length_replies]

theorem heard_eq : heard v.url (v.replies ++ rest) = Status.check v.answer.delivered := by
  rw [replies_append, v.follows.heard_eq (v.stops rest)]
  have ha : arrival (v.detour.place v.url) (upcoming (.answer v.answer :: rest)) =
      .ok v.answer.delivered := by
    simp [upcoming, arrival, v.final]
  rw [ha]
  rfl

theorem left_eq : left v.url (v.replies ++ rest) = rest := by
  rw [replies_append, v.follows.left_eq (v.stops rest)]
  rfl

theorem asks_eq (c : Client) : c.asks v.url (v.replies ++ rest) = c.sends v := by
  rw [replies_append, v.follows.asks_eq (v.stops rest)]
  rfl

end Visit

end Scripts

end CreditRoll.Github
