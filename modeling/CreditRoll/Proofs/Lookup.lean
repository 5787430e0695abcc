import CreditRoll.Proofs.Collection
import CreditRoll.Proofs.JsonText
import CreditRoll.Proofs.Listing

namespace CreditRoll.Github

open Http Collection Url

structure HoldsProfile (r : Response) (profile : Profile) : Prop where
  success : r.isSuccess = true
  content : r.status ≠ 204
  decodes : r.body >>= Wire.profile? = some profile

theorem profile?_nil : Wire.profile? [] = none := by
  have ha : Json.Token.all? (Text.Utf8.scan []) = some [] := Json.Token.all?_nil rfl
  rw [Wire.profile?, Json.ofSource?, ha]
  rfl

section Profiles

variable [Idna] [Library]

def profileHeard (url : String) (replies : List Reply) : Except Error Profile :=
  match heard url replies with
  | .error e => .error e
  | .ok r =>
    match r.body >>= Wire.profile? with
    | none => .error (.request .unreadable)
    | some profile => .ok profile

/-- Replies that begin with a profile for each entry: the credits they make, and the replies that
are left. -/
inductive Told (c : Client) : List Entry → List Reply → List Credit → List Reply → Prop
  | nil {replies : List Reply} : Told c [] replies [] replies
  | cons {entry : Entry} {entries : List Entry} {v : Visit} {profile : Profile}
      {replies rest : List Reply} {credits : List Credit}
      (hv : v.url = c.profileUrl entry.login) (h : HoldsProfile v.answer profile)
      (ht : Told c entries replies credits rest) :
      Told c (entry :: entries) (v.replies ++ replies) (.ofProfile entry profile :: credits) rest

theorem profileHeard_ok_iff {url : String} (hu : IsWebUrl url) {replies : List Reply}
    {profile : Profile} :
    profileHeard url replies = .ok profile ↔
      ∃ (v : Visit) (rest : List Reply), v.url = url ∧ replies = v.replies ++ rest ∧
        HoldsProfile v.answer profile := by
  constructor
  · intro h
    obtain ⟨d, rest, rfl, hd, hs⟩ := exists_follows hu replies
    rw [profileHeard, hd.heard_eq hs] at h
    cases hr : upcoming rest with
    | hangUp => simp [hr, arrival, outcome] at h
    | answer r =>
      cases ht : r.target? (d.place url) with
      | some target => simp [hr, arrival, ht, outcome] at h
      | none =>
        simp only [hr, arrival, ht, outcome] at h
        cases hk : Status.check r.delivered with
        | error e => simp [hk] at h
        | ok r' =>
          have hr' : r.isSuccess = true :=
            (isSuccess_delivered r).symm.trans (Client.isSuccess_of_check hk)
          obtain rfl := Client.eq_of_check hk
          by_cases hc : r.status = 204
          · have hb : r.delivered.body >>= Wire.profile? = none := by
              simp [Response.delivered, hc, profile?_nil]
            simp [hk, hb] at h
          · rw [check_of_content hr' hc] at h
            cases hb : r.body >>= Wire.profile? with
            | none => simp only [hb, reduceCtorEq] at h
            | some p =>
              simp only [hb, Except.ok.injEq] at h
              refine ⟨⟨url, d, r, hd, ht⟩, rest.tail, rfl, ?_, hr', hc, h ▸ hb⟩
              rw [Visit.replies_append, ← eq_cons_of_upcoming hr hr']
  · rintro ⟨v, rest, rfl, rfl, h⟩
    simp only [profileHeard, v.heard_eq, check_of_content h.success h.content, h.decodes]

namespace Client

variable (c : Client)

theorem profile_server {login : String} (hu : IsWebUrl (c.profileUrl login))
    (replies : List Reply) (sent : List Request) (steps : List Event) :
    let url := c.profileUrl login
    c.profile login ⟨.server replies, sent, steps⟩ =
      (profileHeard url replies,
        ⟨.server (left url replies), sent ++ c.asks url replies, steps ++ [.get url]⟩) := by
  simp only [profile, get_server c hu, profileHeard]
  cases heard (c.profileUrl login) replies with
  | error e => rfl
  | ok r =>
    simp only
    cases r.body >>= Wire.profile? <;> rfl

theorem follow_told (steps : List Event) (first request : Request) (hops : Nat)
    (asked : List String) (s : Session) :
    { s with trace := steps }.follow first hops asked request =
      Prod.map id ({ · with trace := steps }) (s.follow first hops asked request) := by
  let told (t : Session) : Session := { t with trace := steps }
  have hs (q : Request) (t : Session) : (told t).send (id q) = Prod.map id told (t.send q) := rfl
  exact Session.follow_retold (fun _ ↦ rfl) (fun _ _ _ ↦ rfl) hs first request hops asked s

theorem get_steps (url : String) (s : Session) :
    c.get url s =
      ((c.get url { s with trace := [] }).1, { (c.get url { s with trace := [] }).2 with
        trace := s.trace ++ [.get url] }) := by
  simp only [get, Session.note]
  cases addressFault? url with
  | some fault => rfl
  | none =>
    have hf := follow_told (s.trace ++ [.get url]) (c.request url) (c.request url)
      Request.maxRedirects [] { s with trace := [] ++ [.get url] }
    simp only at hf ⊢
    rw [hf]
    rcases Session.follow (c.request url) Request.maxRedirects [] (c.request url)
      { s with trace := [] ++ [.get url] } with ⟨fault | response, t⟩
    · rfl
    · rfl

/-- The network as a collection sees it: what it still holds, and the requests that arrived. -/
def networkView : View c.directory (Network × List Request) where
  view s := (s.network, s.requests)
  look login t :=
    let (answer, s) := c.profile login ⟨t.1, t.2, []⟩
    (answer, s.network, s.requests)
  view_note _ _ := rfl
  look_view login s := by
    simp only [directory, profile]
    rw [c.get_steps (c.profileUrl login) s]
    rcases c.get (c.profileUrl login) { s with trace := [] } with ⟨e | r, s'⟩
    · rfl
    · simp only
      cases r.body >>= Wire.profile? <;> rfl

theorem look_server {login : String} (hu : IsWebUrl (c.profileUrl login)) (replies : List Reply)
    (sent : List Request) :
    let url := c.profileUrl login
    c.networkView.look login (.server replies, sent) =
      (profileHeard url replies, .server (left url replies), sent ++ c.asks url replies) := by
  simp only [networkView, profile_server c hu]

theorem look_fault {login : String} {fault : RequestFault}
    (h : addressFault? (c.profileUrl login) = some fault) (t : Network × List Request) :
    c.networkView.look login t = (.error (.request fault), t) := by
  simp only [networkView, profile, get_fault c h]
  rfl

def Says (login : String) (reply : Reply) (x : Except Error Profile) : Prop :=
  ∀ rest, profileHeard (c.profileUrl login) (reply :: rest) = x ∧
    left (c.profileUrl login) (reply :: rest) = rest

/-- A script that answers each login as `profile` does is as good as `profile`. -/
theorem lookUp_simulates {profile : String → Except Error Profile} {entries : List Entry}
    {replies : List Reply} (hu : ∀ entry ∈ entries, IsWebUrl (c.profileUrl entry.login))
    (h : List.Forall₂ (fun entry reply ↦ c.Says entry.login reply (profile entry.login))
      entries replies)
    (rest : List Reply) (sent : List Request) (calls : List Call) :
    (lookUp c.networkView.look entries (.server (replies ++ rest), sent)).1 =
      (lookUp (ask profile) entries calls).1 := by
  induction h generalizing sent calls with
  | nil => rfl
  | @cons entry reply entries replies hr _ ih =>
    obtain ⟨hu, hus⟩ := List.forall_mem_cons.1 hu
    obtain ⟨hp, hl⟩ := hr (replies ++ rest)
    have hs := c.look_server hu (reply :: (replies ++ rest)) sent
    have hi := ih hus (sent ++ c.asks (c.profileUrl entry.login) (reply :: (replies ++ rest)))
      (calls ++ [.user entry.login])
    simp only [lookUp, List.cons_append, hs, hp, hl, ask]
    cases profile entry.login with
    | error e => rfl
    | ok p => exact congrArg (·.map (Credit.ofProfile entry p :: ·)) hi

/-- Looking up succeeds only on a script with a profile for each entry. -/
theorem lookUp_ok_iff {entries : List Entry} {replies : List Reply} {sent : List Request}
    {credits : List Credit} :
    (lookUp c.networkView.look entries (.server replies, sent)).1 = .ok credits ↔
      ∃ rest, Told c entries replies credits rest := by
  constructor
  · intro h
    induction entries generalizing replies sent credits with
    | nil =>
      cases h
      exact ⟨replies, .nil⟩
    | cons entry entries ih =>
      cases hf : addressFault? (c.profileUrl entry.login) with
      | some fault => simp [lookUp, c.look_fault hf] at h
      | none =>
        rw [lookUp, c.look_server hf] at h
        cases hp : profileHeard (c.profileUrl entry.login) replies with
        | error e => simp [hp] at h
        | ok p =>
          obtain ⟨v, rest, hv, rfl, hh⟩ := (profileHeard_ok_iff hf).1 hp
          rw [← hv] at h hp
          simp only [hp, v.left_eq] at h
          rcases hl : lookUp c.networkView.look entries
              (.server rest, sent ++ c.asks v.url (v.replies ++ rest)) with ⟨e | more, t⟩
          · rw [hl] at h
            cases h
          · rw [hl] at h
            cases h
            obtain ⟨rest', ht⟩ := ih (congrArg Prod.fst hl)
            exact ⟨rest', .cons hv hh ht⟩
  · rintro ⟨rest, h⟩
    induction h generalizing sent with
    | nil => rfl
    | @cons entry entries v profile replies rest credits hv hp _ ih =>
      have hw : IsWebUrl (c.profileUrl entry.login) := hv ▸ v.follows.web
      have ho : profileHeard (c.profileUrl entry.login) (v.replies ++ replies) = .ok profile :=
        (profileHeard_ok_iff hw).2 ⟨v, replies, hv, rfl, hp⟩
      have hl : left (c.profileUrl entry.login) (v.replies ++ replies) = replies :=
        hv ▸ v.left_eq replies
      simp only [lookUp, c.look_server hw, ho, hl, ih, Except.map]

end Client

end Profiles

end CreditRoll.Github
