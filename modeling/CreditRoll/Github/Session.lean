import CreditRoll.Collection
import CreditRoll.Github.Client
import CreditRoll.Github.Status
import CreditRoll.Http.Link
import CreditRoll.Url.Credentials

namespace CreditRoll.Github

open Http Url

/-- The state of a run over a network: the network itself, the requests that arrived, and the steps
taken. -/
structure Session where
  network : Network
  requests : List Request
  trace : List Event

namespace Session

def start (network : Network) : Session :=
  ⟨network, [], []⟩

def note (event : Event) (s : Session) : Session :=
  { s with trace := s.trace ++ [event] }

def send (request : Request) (s : Session) : Option Response × Session :=
  let (network, arrived, response) := s.network.exchange
  (response, { s with
    network
    requests := if arrived then s.requests ++ [request] else s.requests })

theorem size_send {request : Request} {r : Response} {s s' : Session}
    (h : s.send request = (some r, s')) :
    s'.network.size < s.network.size ∨
      r = Network.exhausted ∧ s'.network.size = s.network.size := by
  match hn : s.network with
  | .unreachable => grind [send, Network.exchange]
  | .server [] => grind [send, Network.exchange]
  | .server (.hangUp :: _) => grind [send, Network.exchange]
  | .server (.answer _ :: _) => grind [send, Network.exchange, Network.size]

end Session

section Following

variable [Idna]

def Client.addressFault? (url : String) : Option RequestFault :=
  match Address.parse? url with
  | none => some .notAbsolute
  | some address =>
    let address := address.withoutCredentials
    if !address.isWeb then some (.notWeb address.text)
    else if !address.isUri then some (.notUri address.text)
    else none

def shown (url : String) : String :=
  match Address.parse? url with
  | none => url
  | some address => address.withoutCredentials.text

variable [Library]

namespace Session

/-- Sends a request until an answer sends it no further. `first` is what it was at first, and
`asked` are the addresses that it has gone to, the latest first. -/
def follow (first : Request) : (hops : Nat) → (asked : List String) → (request : Request) →
    Session → Except RequestFault Response × Session
  | hops, asked, request, s =>
    match s.send request with
    | (none, s) => (.error .unsent, s)
    | (some response, s) =>
      match response.target? request.url with
      | none => (.ok response, s)
      | some target =>
        match Client.addressFault? target with
        | some fault => (.error fault, s)
        | none =>
          match hops with
          | 0 => (.error (.endless (shown request.url)), s)
          | hops + 1 =>
            let asked := request.url :: asked
            follow first hops asked (first.redirected asked target) s

/-- A success takes a reply from the network, whatever comes before it. -/
theorem size_follow {first request : Request} {hops : Nat} {asked : List String} {r : Response}
    {s s' : Session} (h : follow first hops asked request s = (.ok r, s'))
    (hr : r.isSuccess = true) : s'.network.size < s.network.size := by
  induction hops generalizing asked request s with
  | zero =>
    rw [follow] at h
    split at h
    · cases h
    · next a t ht =>
      split at h
      · cases h
        rcases size_send ht with hs | ⟨rfl, -⟩
        · exact hs
        · cases hr
      · split at h <;> cases h
  | succ hops ih =>
    rw [follow] at h
    split at h
    · cases h
    · next a t ht =>
      rcases size_send ht with hs | ⟨rfl, hs⟩
      · split at h
        · cases h
          exact hs
        · split at h
          · cases h
          · exact Nat.lt_trans (ih h) hs
      · rw [Network.target?_exhausted] at h
        cases h
        cases hr

end Session

end Following

namespace Client

def version : String :=
  "0.1.0"

def headers (c : Client) : Headers :=
  [("accept", "application/vnd.github+json"), ("user-agent", "ghcredits/" ++ version),
    ("x-github-api-version", "2022-11-28")] ++
    match c.token with
    | some token => [("authorization", "Bearer " ++ token)]
    | none => []

def profileUrl (c : Client) (login : String) : String :=
  c.url ("/users/" ++ Segment.encode login)

def perPage : Nat := 100

def listingUrl (c : Client) (owner name : String) : String :=
  c.url ("/repos/" ++ Segment.encode owner ++ "/" ++ Segment.encode name ++
    "/contributors?per_page=" ++ toString perPage)

theorem isSuccess_of_check {r r' : Response} (h : Status.check r = .ok r') :
    r.isSuccess = true := by
  unfold Status.check at h
  grind

theorem eq_of_check {r r' : Response} (h : Status.check r = .ok r') : r' = r := by
  unfold Status.check at h
  grind

section Asking

variable [Idna]

def headersFor (c : Client) (url : String) : Headers :=
  match Address.parse? url >>= Address.credentials? with
  | some credentials =>
    { c with token := none }.headers ++ [("authorization", credentials.basic)]
  | none => c.headers

def request (c : Client) (url : String) : Request :=
  ⟨"GET", url, c.headersFor url⟩

variable [Library]

def get (c : Client) (url : String) (s : Session) : Except Error Response × Session :=
  let s := s.note (.get url)
  match addressFault? url with
  | some fault => (.error (.request fault), s)
  | none =>
    let request := c.request url
    match s.follow request Request.maxRedirects [] request with
    | (.error fault, s) => (.error (.request fault), s)
    | (.ok response, s) => (Status.check response, s)

def profile (c : Client) (login : String) (s : Session) : Except Error Profile × Session :=
  match c.get (c.profileUrl login) s with
  | (.error e, s) => (.error e, s)
  | (.ok response, s) =>
    match response.body >>= Wire.profile? with
    | none => (.error (.request .unreadable), s)
    | some profile => (.ok profile, s)

/-- One page of a listing and the address of the next. An answer without content ends the listing
and is not a page. -/
def page (c : Client) (url : String) (s : Session) :
    Except Error (List Entry × Option String) × Session :=
  match c.get url s with
  | (.error e, s) => (.error e, s)
  | (.ok response, s) =>
    if response.status == 204 then (.ok ([], none), s)
    else
      match response.body >>= Wire.page? with
      | none => (.error (.request .unreadable), s)
      | some entries =>
        let next := response.headers.nextPage?
        (.ok (entries, next), s.note (.page entries.length next.isSome))

theorem size_get {c : Client} {url : String} {r : Response} {s s' : Session}
    (h : c.get url s = (.ok r, s')) : s'.network.size < s.network.size := by
  simp only [get] at h
  split at h
  · cases h
  · split at h
    · cases h
    · next hf =>
      obtain ⟨hc, rfl⟩ := Prod.mk.inj h
      have hs := Session.size_follow hf (isSuccess_of_check hc)
      exact hs

/-- Only a reply that the network still holds makes another page. -/
theorem size_page {c : Client} {url : String} {p : List Entry × Option String} {s s' : Session}
    (h : c.page url s = (.ok p, s')) : s'.network.size < s.network.size := by
  unfold page at h
  split at h
  · grind
  · next hg =>
    have := size_get hg
    grind [Session.note]

def listFrom (c : Client) (url : String) (s : Session) : Except Error (List Entry) × Session :=
  match _h : c.page url s with
  | (.error e, s) => (.error e, s)
  | (.ok (entries, none), s) => (.ok entries, s)
  | (.ok (entries, some next), s) =>
    let (more, s) := listFrom c next s
    (more.map (entries ++ ·), s)
termination_by s.network.size
decreasing_by exact size_page _h

def list (c : Client) (owner name : String) (s : Session) :
    Except Error (List Entry) × Session :=
  c.listFrom (c.listingUrl owner name) s

def directory (c : Client) : Directory Session where
  list := c.list
  profile := c.profile
  note := Session.note

end Asking

end Client

end CreditRoll.Github
