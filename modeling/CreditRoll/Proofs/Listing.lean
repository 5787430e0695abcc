import CreditRoll.Proofs.Address

namespace CreditRoll.Github

open Http Url

/-- A success with content whose body is a page of entries, and what its `Link` field says about the
next page. -/
structure HoldsPage (r : Response) (entries : List Entry) (next : Option String) : Prop where
  success : r.isSuccess = true
  content : r.status ≠ 204
  decodes : r.body >>= Wire.page? = some entries
  links : r.headers.nextPage? = next

/-- An answer that completes a listing: one without content, whatever its header says, or a page
that leads no further. -/
inductive Completes (r : Response) : List Entry → Prop
  | empty (h : r.status = 204) : Completes r []
  | page {entries : List Entry} (h : HoldsPage r entries none) : Completes r entries

def lastSteps (url : String) (r : Response) (entries : List Entry) : List Event :=
  if r.status = 204 then [.get url] else [.get url, .page entries.length false]

theorem delivered_of_content {r : Response} (hs : r.isSuccess = true) (hc : r.status ≠ 204) :
    r.delivered = r := by
  have h304 : r.status ≠ 304 := by
    intro he
    simp [Response.isSuccess, he] at hs
  simp [Response.delivered, hc, h304]

theorem isSuccess_delivered (r : Response) : r.delivered.isSuccess = r.isSuccess := by
  unfold Response.delivered
  split <;> rfl

theorem status_delivered (r : Response) : r.delivered.status = r.status := by
  unfold Response.delivered
  split <;> rfl

theorem check_of_isSuccess {r : Response} (h : r.isSuccess = true) : Status.check r = .ok r := by
  simp only [Status.check, h, if_true]

theorem check_of_content {r : Response} (hs : r.isSuccess = true) (hc : r.status ≠ 204) :
    Status.check r.delivered = .ok r := by
  rw [delivered_of_content hs hc, check_of_isSuccess hs]

theorem Completes.isSuccess {r : Response} {entries : List Entry} (h : Completes r entries) :
    r.isSuccess = true := by
  cases h with
  | empty h => simp [Response.isSuccess, h]
  | page h => exact h.success

theorem eq_cons_of_upcoming {replies : List Reply} {r : Response}
    (h : upcoming replies = .answer r) (hs : r.isSuccess = true) :
    replies = .answer r :: replies.tail := by
  cases replies with
  | nil =>
    have he : Network.exhausted = r := Reply.answer.inj h
    rw [← he] at hs
    cases hs
  | cons reply replies => exact congrArg (· :: replies) h

section Pages

variable [Idna] [Library]

structure LinkedPage extends Visit where
  entries : List Entry
  target : String
  holds : HoldsPage answer entries (some target)

/-- A reply to a request for an address, after so many redirects, that breaks a listing off: none, a
refusal, a success with content whose body is no page or did not come whole, or one redirect more
that leads to no web address or is one too many. -/
inductive Breaks (url : String) (hops : Nat) : Reply → Error → Prop
  | hangUp : Breaks url hops .hangUp (.request .unsent)
  | refused {r : Response} {e : Error} (ht : r.target? url = none)
      (h : Status.check r.delivered = .error e) : Breaks url hops (.answer r) e
  | unreadable {r : Response} (hs : r.isSuccess = true) (hc : r.status ≠ 204)
      (hb : r.body >>= Wire.page? = none) : Breaks url hops (.answer r) (.request .unreadable)
  | misled {r : Response} {target : String} {fault : RequestFault}
      (ht : r.target? url = some target) (hf : Client.addressFault? target = some fault) :
      Breaks url hops (.answer r) (.request fault)
  | endless {r : Response} {target : String} (ht : r.target? url = some target)
      (hw : IsWebUrl target) (hn : hops = Request.maxRedirects) :
      Breaks url hops (.answer r) (.request (.endless (shown url)))

def trail (url : String) (pages : List LinkedPage) : List String := url :: pages.map (·.target)

/-- Each page is the one that the page before it leads to, and the last one leads to `last`. -/
def Leads (url : String) (pages : List LinkedPage) (last : String) : Prop :=
  trail url pages = pages.map (·.url) ++ [last]

def pageSteps (pages : List LinkedPage) : List Event :=
  pages.flatMap fun p ↦ [.get p.url, .page p.entries.length true]

theorem leads_nil {url last : String} : Leads url [] last ↔ last = url := by
  simp [Leads, trail, eq_comm]

theorem leads_cons {url last : String} {p : LinkedPage} {pages : List LinkedPage} :
    Leads url (p :: pages) last ↔ p.url = url ∧ Leads p.target pages last := by
  simp [Leads, trail, eq_comm]

theorem Leads.web {url last : String} {pages : List LinkedPage} (h : Leads url pages last)
    (hl : IsWebUrl last) : IsWebUrl url := by
  cases pages with
  | nil => exact leads_nil.1 h ▸ hl
  | cons p pages => exact (leads_cons.1 h).1 ▸ p.follows.web

variable (c : Client) {url : String} (sent : List Request) (steps : List Event)

theorem Client.get_visit (v : Visit) (rest : List Reply) :
    c.get v.url ⟨.server (v.replies ++ rest), sent, steps⟩ =
      (Status.check v.answer.delivered,
        ⟨.server rest, sent ++ c.sends v, steps ++ [.get v.url]⟩) := by
  rw [get_server c v.follows.web, v.heard_eq, v.left_eq, v.asks_eq]

theorem Client.page_of_holds {v : Visit} {entries : List Entry} {next : Option String}
    (h : HoldsPage v.answer entries next) (rest : List Reply) :
    c.page v.url ⟨.server (v.replies ++ rest), sent, steps⟩ =
      (.ok (entries, next), ⟨.server rest, sent ++ c.sends v,
        steps ++ [.get v.url, .page entries.length next.isSome]⟩) := by
  have hr := check_of_content h.success h.content
  have hc : (v.answer.status == 204) = false := by simpa using h.content
  simp only [page, get_visit, hr, hc, h.decodes, h.links, Session.note, List.append_assoc]
  rfl

theorem Client.page_of_empty {v : Visit} (h : v.answer.status = 204) (rest : List Reply) :
    c.page v.url ⟨.server (v.replies ++ rest), sent, steps⟩ =
      (.ok ([], none), ⟨.server rest, sent ++ c.sends v, steps ++ [.get v.url]⟩) := by
  have hd : v.answer.delivered.status = 204 := (status_delivered _).trans h
  have hs : v.answer.delivered.isSuccess = true := by simp [Response.isSuccess, hd]
  simp only [page, get_visit, check_of_isSuccess hs, hd]
  rfl

section Breaking

variable {d : Detour} {reply : Reply} {rest : List Reply} {e : Error}

theorem Breaks.stops (h : Breaks (d.place url) d.length reply e) :
    d.Stops Request.maxRedirects url reply := by
  intro hl
  cases h with
  | hangUp => rfl
  | refused ht => simp [hop?, ht]
  | unreadable hs => exact hop?_of_isSuccess hs _
  | misled ht hf => simp [hop?, ht, IsWebUrl, hf]
  | endless _ _ hn => omega

theorem Client.page_of_breaks (hd : d.Follows url)
    (h : Breaks (d.place url) d.length (upcoming rest) e) :
    c.page url ⟨.server (d.replies ++ rest), sent, steps⟩ =
      (.error e, ⟨.server rest.tail,
        sent ++ c.along url d, steps ++ [.get url]⟩) := by
  simp only [page, get_server c hd.web, hd.heard_eq h.stops, hd.left_eq h.stops,
    hd.asks_eq h.stops]
  generalize upcoming rest = reply at h
  cases h with
  | hangUp => rfl
  | refused ht h => simp only [arrival, ht, outcome, h]
  | @unreadable r hs hc hb =>
    have hc' : (r.status == 204) = false := by simpa using hc
    simp only [arrival, target?_of_isSuccess hs, outcome, delivered_of_content hs hc,
      check_of_isSuccess hs, hc', hb]
    rfl
  | misled ht hf => simp only [arrival, ht, hf, outcome, Option.getD_some]
  | endless ht hw =>
    have hf : addressFault? _ = none := hw
    simp only [arrival, ht, hf, outcome, Option.getD_none]

end Breaking

theorem Client.listFrom_error {s s' : Session} {e : Error}
    (h : c.page url s = (.error e, s')) : c.listFrom url s = (.error e, s') := by
  rw [listFrom]
  split
  · next h' => rw [h] at h'; simpa using h'.symm
  · next h' => simp [h] at h'
  · next h' => simp [h] at h'

theorem Client.listFrom_last {s s' : Session} {entries : List Entry}
    (h : c.page url s = (.ok (entries, none), s')) : c.listFrom url s = (.ok entries, s') := by
  rw [listFrom]
  split
  · next h' => simp [h] at h'
  · next h' => rw [h] at h'; simpa using h'.symm
  · next h' => simp [h] at h'

theorem Client.listFrom_next {s s' : Session} {entries : List Entry} {next : String}
    (h : c.page url s = (.ok (entries, some next), s')) :
    c.listFrom url s =
      ((c.listFrom next s').1.map (entries ++ ·), (c.listFrom next s').2) := by
  rw [listFrom]
  split
  · next h' => simp [h] at h'
  · next h' => simp [h] at h'
  · next h' =>
    rw [h] at h'
    simp only [Prod.mk.injEq, Except.ok.injEq, Option.some.injEq] at h'
    obtain ⟨⟨rfl, rfl⟩, rfl⟩ := h'
    rfl

theorem Client.listFrom_pages {pages : List LinkedPage} {last : String}
    (h : Leads url pages last) (rest : List Reply) :
    c.listFrom url ⟨.server (pages.flatMap (·.replies) ++ rest), sent, steps⟩ =
      let out := c.listFrom last ⟨.server rest,
        sent ++ pages.flatMap (c.sends ·.toVisit), steps ++ pageSteps pages⟩
      (out.1.map (pages.flatMap (·.entries) ++ ·), out.2) := by
  induction pages generalizing url sent steps with
  | nil =>
    have hid : ∀ r : Except Error (List Entry), r.map (fun x ↦ x) = r := by
      intro r
      cases r <;> rfl
    obtain rfl := leads_nil.1 h
    simp [pageSteps, hid]
  | cons p pages ih =>
    obtain ⟨rfl, ht⟩ := leads_cons.1 h
    have hp := c.page_of_holds sent steps p.holds (pages.flatMap (·.replies) ++ rest)
    have hi := ih (sent ++ c.sends p.toVisit)
      (steps ++ [.get p.url, .page p.entries.length true]) ht
    rw [List.flatMap_cons, List.append_assoc, listFrom_next c hp]
    simp only [Option.isSome_some, hi, pageSteps, List.append_assoc, List.cons_append,
      List.nil_append, List.flatMap_cons]
    cases (c.listFrom last _).1 <;> simp [Except.map]

theorem Client.listFrom_completes {v : Visit} {entries : List Entry}
    (h : Completes v.answer entries) (rest : List Reply) :
    c.listFrom v.url ⟨.server (v.replies ++ rest), sent, steps⟩ =
      (.ok entries, ⟨.server rest, sent ++ c.sends v,
        steps ++ lastSteps v.url v.answer entries⟩) := by
  cases h with
  | empty h =>
    rw [lastSteps, if_pos h]
    exact listFrom_last c (c.page_of_empty sent steps h rest)
  | page h =>
    rw [lastSteps, if_neg h.content]
    exact listFrom_last c (c.page_of_holds sent steps h rest)

theorem Client.listFrom_fault {fault : RequestFault} (h : addressFault? url = some fault)
    (s : Session) :
    c.listFrom url s = (.error (.request fault), s.note (.get url)) := by
  apply listFrom_error
  simp only [page, get_fault c h]

inductive Ends (url : String) (rest : List Reply) : Prop
  | fault {fault : RequestFault} (h : Client.addressFault? url = some fault) : Ends url rest
  | completes {v : Visit} {more : List Reply} {entries : List Entry} (hv : v.url = url)
      (hr : rest = v.replies ++ more) (h : Completes v.answer entries) : Ends url rest
  | breaks {d : Detour} {more : List Reply} {e : Error} (hd : d.Follows url)
      (hr : rest = d.replies ++ more) (h : Breaks (d.place url) d.length (upcoming more) e) :
      Ends url rest

theorem reply_cases {hops : Nat} {reply : Reply} (hn : hops ≤ Request.maxRedirects)
    (hs : hops < Request.maxRedirects → hop? url reply = none) :
    (∃ r, reply = .answer r ∧ r.isSuccess = true ∧
      ((∃ entries, Completes r entries) ∨ ∃ entries target, HoldsPage r entries (some target))) ∨
    ∃ e, Breaks url hops reply e := by
  cases reply with
  | hangUp => exact .inr ⟨_, .hangUp⟩
  | answer r =>
    cases ht : r.target? url with
    | some target =>
      cases hf : Client.addressFault? target with
      | some fault => exact .inr ⟨_, .misled ht hf⟩
      | none =>
        have hw : IsWebUrl target := hf
        refine .inr ⟨_, .endless ht hf ?_⟩
        by_contra hne
        have hh := hs (Nat.lt_of_le_of_ne hn hne)
        simp [hop?, ht, hw] at hh
    | none =>
      cases hk : Status.check r.delivered with
      | error e => exact .inr ⟨e, .refused ht hk⟩
      | ok r' =>
        have hr : r.isSuccess = true :=
          (isSuccess_delivered r).symm.trans (Client.isSuccess_of_check hk)
        by_cases hc : r.status = 204
        · exact .inl ⟨r, rfl, hr, .inl ⟨[], .empty hc⟩⟩
        cases hb : r.body >>= Wire.page? with
        | none => exact .inr ⟨_, .unreadable hr hc hb⟩
        | some entries =>
          cases hn : r.headers.nextPage? with
          | none => exact .inl ⟨r, rfl, hr, .inl ⟨entries, .page ⟨hr, hc, hb, hn⟩⟩⟩
          | some target => exact .inl ⟨r, rfl, hr, .inr ⟨entries, target, ⟨hr, hc, hb, hn⟩⟩⟩

/-- What a script has for an address: a page that leads on, or the end of the listing. -/
theorem linked_or_ends (url : String) (replies : List Reply) :
    (∃ (p : LinkedPage) (rest : List Reply), p.url = url ∧ replies = p.replies ++ rest) ∨
      Ends url replies := by
  cases hf : Client.addressFault? url with
  | some fault => exact .inr (.fault hf)
  | none =>
    obtain ⟨d, rest, rfl, hd, hs⟩ := exists_follows hf replies
    rcases reply_cases hd.few hs with ⟨r, hu, hr, h⟩ | ⟨e, h⟩
    · let v : Visit := ⟨url, d, r, hd, target?_of_isSuccess hr _⟩
      have hv : d.replies ++ rest = v.replies ++ rest.tail := by
        rw [v.replies_append, ← eq_cons_of_upcoming hu hr]
      rcases h with ⟨entries, h⟩ | ⟨entries, target, h⟩
      · exact .inr (.completes (v := v) rfl hv h)
      · exact .inl ⟨⟨v, entries, target, h⟩, rest.tail, rfl, hv⟩
    · exact .inr (.breaks hd rfl h)

/-- Every script begins with pages that lead on from an address, and then the listing ends. -/
theorem exists_pages (url : String) (replies : List Reply) :
    ∃ pages rest last, replies = pages.flatMap (·.replies) ++ rest ∧ Leads url pages last ∧
      Ends last rest := by
  induction hn : replies.length using Nat.strong_induction_on generalizing url replies with
  | _ n ih =>
    rcases linked_or_ends url replies with ⟨p, rest, rfl, rfl⟩ | h
    · have hl : rest.length < n := by
        rw [← hn, List.length_append, p.length_replies]
        omega
      obtain ⟨pages, rest, last, rfl, hp, he⟩ := ih _ hl p.target rest rfl
      refine ⟨p :: pages, rest, last, ?_, leads_cons.2 ⟨rfl, hp⟩, he⟩
      rw [List.flatMap_cons, List.append_assoc]
    · exact ⟨[], replies, url, rfl, leads_nil.2 rfl, h⟩

theorem Client.listFrom_whole_steps {pages : List LinkedPage} {last : Visit} {more : List Entry}
    (hp : Leads url pages last.url) (h : Completes last.answer more) (rest : List Reply) :
    c.listFrom url ⟨.server (pages.flatMap (·.replies) ++ (last.replies ++ rest)), sent, steps⟩ =
      (.ok (pages.flatMap (·.entries) ++ more),
        ⟨.server rest, sent ++ (pages.flatMap (c.sends ·.toVisit) ++ c.sends last),
          steps ++ pageSteps pages ++ lastSteps last.url last.answer more⟩) := by
  rw [listFrom_pages c sent steps hp, listFrom_completes c _ _ h]
  simp only [Except.map, List.append_assoc]

theorem Client.listFrom_stuck {pages : List LinkedPage} {last : String} {fault : RequestFault}
    (hp : Leads url pages last) (h : addressFault? last = some fault) (rest : List Reply) :
    c.listFrom url ⟨.server (pages.flatMap (·.replies) ++ rest), sent, steps⟩ =
      (.error (.request fault), ⟨.server rest, sent ++ pages.flatMap (c.sends ·.toVisit),
        steps ++ pageSteps pages ++ [.get last]⟩) := by
  rw [listFrom_pages c sent steps hp, listFrom_fault c h]
  rfl

theorem Client.listFrom_broken {pages : List LinkedPage} {last : String} {d : Detour}
    {rest : List Reply} {e : Error} (hp : Leads url pages last) (hd : d.Follows last)
    (h : Breaks (d.place last) d.length (upcoming rest) e) :
    c.listFrom url ⟨.server (pages.flatMap (·.replies) ++ (d.replies ++ rest)), sent, steps⟩ =
      (.error e, ⟨.server rest.tail, sent ++ (pages.flatMap (c.sends ·.toVisit) ++ c.along last d),
        steps ++ pageSteps pages ++ [.get last]⟩) := by
  rw [listFrom_pages c sent steps hp, listFrom_error c (c.page_of_breaks _ _ hd h)]
  simp only [Except.map, List.append_assoc]

/-- A listing reads pages until the first address that is of no use, the first reply that breaks it
off or the first answer that completes it. -/
theorem Client.listFrom_cases (url : String) (replies : List Reply) :
    let out := c.listFrom url ⟨.server replies, sent, steps⟩
    ∃ pages rest last, replies = pages.flatMap (·.replies) ++ rest ∧ Leads url pages last ∧
      ((∃ v more left told, v.url = last ∧ rest = v.replies ++ left ∧ Completes v.answer more ∧
          out = (.ok (pages.flatMap (·.entries) ++ more), ⟨.server left,
            sent ++ (pages.flatMap (c.sends ·.toVisit) ++ c.sends v), told⟩)) ∨
        (∃ fault told, addressFault? last = some fault ∧
          out = (.error (.request fault), ⟨.server rest,
            sent ++ pages.flatMap (c.sends ·.toVisit), told⟩)) ∨
        ∃ d more e told, d.Follows last ∧ rest = d.replies ++ more ∧
          Breaks (d.place last) d.length (upcoming more) e ∧
          out = (.error e, ⟨.server more.tail,
            sent ++ (pages.flatMap (c.sends ·.toVisit) ++ c.along last d), told⟩)) := by
  intro out
  obtain ⟨pages, rest, last, rfl, hp, he⟩ := exists_pages url replies
  refine ⟨pages, rest, last, rfl, hp, ?_⟩
  cases he with
  | fault h => exact .inr (.inl ⟨_, _, h, c.listFrom_stuck sent steps hp h rest⟩)
  | completes hv hr h =>
    subst hv hr
    exact .inl ⟨_, _, _, _, rfl, rfl, h, c.listFrom_whole_steps sent steps hp h _⟩
  | breaks hd hr h =>
    subst hr
    exact .inr (.inr ⟨_, _, _, _, hd, rfl, h, c.listFrom_broken sent steps hp hd h⟩)

theorem Client.listFrom_ok_iff (url : String) (replies : List Reply) (entries : List Entry)
    (asked : List Request) (left : List Reply) :
    let out := c.listFrom url ⟨.server replies, sent, steps⟩
    (out.1 = .ok entries ∧ out.2.requests = sent ++ asked ∧ out.2.network = .server left) ↔
      ∃ pages last more, replies = pages.flatMap (·.replies) ++ (last.replies ++ left) ∧
        Leads url pages last.url ∧ Completes last.answer more ∧
        entries = pages.flatMap (·.entries) ++ more ∧
        asked = pages.flatMap (c.sends ·.toVisit) ++ c.sends last := by
  intro out
  constructor
  · rintro ⟨he, hs, hn⟩
    obtain ⟨pages, rest, last, hr, hp, ⟨v, more, left', told, rfl, rfl, hm, h⟩ | ⟨_, _, -, h⟩ |
      ⟨_, _, _, _, -, -, -, h⟩⟩ := c.listFrom_cases sent steps url replies
    · simp only [out, h, Except.ok.injEq, Network.server.injEq, List.append_cancel_left_eq]
        at he hs hn
      subst hn
      exact ⟨pages, v, more, hr, hp, hm, he.symm, hs.symm⟩
    · simp [out, h] at he
    · simp [out, h] at he
  · rintro ⟨pages, last, more, rfl, hp, hm, rfl, rfl⟩
    simp only [out, c.listFrom_whole_steps sent steps hp hm left, and_self]

theorem Client.listFrom_error_iff (url : String) (replies : List Reply) (e : Error)
    (asked : List Request) (left : List Reply) :
    let out := c.listFrom url ⟨.server replies, sent, steps⟩
    (out.1 = .error e ∧ out.2.requests = sent ++ asked ∧ out.2.network = .server left) ↔
      ∃ pages rest last, replies = pages.flatMap (·.replies) ++ rest ∧ Leads url pages last ∧
        ((∃ fault, addressFault? last = some fault ∧ e = .request fault ∧
            asked = pages.flatMap (c.sends ·.toVisit) ∧ left = rest) ∨
          ∃ d more, d.Follows last ∧ rest = d.replies ++ more ∧
            Breaks (d.place last) d.length (upcoming more) e ∧
            asked = pages.flatMap (c.sends ·.toVisit) ++ c.along last d ∧ left = more.tail) := by
  intro out
  constructor
  · rintro ⟨he, hs, hn⟩
    obtain ⟨pages, rest, last, hr, hp, ⟨_, _, _, _, -, -, -, h⟩ | ⟨fault, told, hf, h⟩ |
      ⟨d, more, e', told, hd, hm, hb, h⟩⟩ := c.listFrom_cases sent steps url replies
    · simp [out, h] at he
    · simp only [out, h, Except.error.injEq, Network.server.injEq, List.append_cancel_left_eq]
        at he hs hn
      exact ⟨pages, rest, last, hr, hp, .inl ⟨fault, hf, he.symm, hs.symm, hn.symm⟩⟩
    · simp only [out, h, Except.error.injEq, Network.server.injEq, List.append_cancel_left_eq]
        at he hs hn
      exact ⟨pages, rest, last, hr, hp, .inr ⟨d, more, hd, hm, he ▸ hb, hs.symm, hn.symm⟩⟩
  · rintro ⟨pages, rest, last, rfl, hp, ⟨fault, hf, rfl, rfl, rfl⟩ |
      ⟨d, more, hd, rfl, hb, rfl, rfl⟩⟩
    · simp only [out, c.listFrom_stuck sent steps hp hf, and_self]
    · simp only [out, c.listFrom_broken sent steps hp hd hb, and_self]

theorem length_flatMap_sends (pages : List LinkedPage) :
    (pages.flatMap (c.sends ·.toVisit)).length = (pages.flatMap (·.replies)).length := by
  simp only [List.length_flatMap, Visit.length_sends]

/-- A listing asks for its own address first, and then for what the page just read links to, and
each of these is sent on as its redirects say. It is whole when a script's pages lead on up to an
answer that completes it, and it holds the entries of all of them; otherwise it comes to nothing but
the error of the first reply that breaks it off, or of the first link that leads to no web address,
and nothing is asked for after that. -/
theorem Client.list_follows_pages (owner name : String) (replies : List Reply) :
    let first := c.base ++ "/repos/" ++ Segment.encode owner ++ "/" ++ Segment.encode name ++
      "/contributors?per_page=100"
    let out := c.list owner name (.start (.server replies))
    (∀ entries sent left,
      (out.1 = .ok entries ∧ out.2.requests = sent ∧ out.2.network = .server left) ↔
        ∃ pages last more, replies = pages.flatMap (·.replies) ++ (last.replies ++ left) ∧
          Leads first pages last.url ∧ Completes last.answer more ∧
          entries = pages.flatMap (·.entries) ++ more ∧
          sent = pages.flatMap (c.sends ·.toVisit) ++ c.sends last) ∧
    (∀ e sent left,
      (out.1 = .error e ∧ out.2.requests = sent ∧ out.2.network = .server left) ↔
        ∃ pages rest last, replies = pages.flatMap (·.replies) ++ rest ∧ Leads first pages last ∧
          ((∃ fault, addressFault? last = some fault ∧ e = .request fault ∧
              sent = pages.flatMap (c.sends ·.toVisit) ∧ left = rest) ∨
            ∃ d more, d.Follows last ∧ rest = d.replies ++ more ∧
              Breaks (d.place last) d.length (upcoming more) e ∧
              sent = pages.flatMap (c.sends ·.toVisit) ++ c.along last d ∧ left = more.tail)) ∧
    (c.Reaches → Fits first → out.2.requests.head? = some (c.request first)) ∧
    out.2.requests.length ≤ replies.length + 1 := by
  intro first out
  have ho : out = c.listFrom first ⟨.server replies, [], []⟩ := by
    simp only [out, list, listingUrl_eq]
    rfl
  refine ⟨fun entries sent left ↦ ?_, fun e sent left ↦ ?_, fun hc hf ↦ ?_, ?_⟩
  · rw [ho]
    simpa only [List.nil_append] using c.listFrom_ok_iff [] [] first replies entries sent left
  · rw [ho]
    simpa only [List.nil_append] using c.listFrom_error_iff [] [] first replies e sent left
  · have hw : IsWebUrl first := by
      have hl : c.listingUrl owner name = first := c.listingUrl_eq owner name
      exact hl ▸ hc.listingUrl (hl.symm ▸ hf)
    obtain ⟨pages, rest, last, -, hp, h⟩ := c.listFrom_cases [] [] first replies
    rw [ho]
    cases pages with
    | cons p pages =>
      obtain ⟨hu, -⟩ := leads_cons.1 hp
      rcases h with ⟨_, _, _, _, -, -, -, h⟩ | ⟨_, _, -, h⟩ | ⟨_, _, _, _, -, -, -, h⟩
      all_goals
        rw [h]
        simp [sends, along, hu]
    | nil =>
      obtain rfl := leads_nil.1 hp
      rcases h with ⟨v, _, _, _, hv, -, -, h⟩ | ⟨fault, _, hf, h⟩ | ⟨_, _, _, _, -, -, -, h⟩
      · rw [h]
        simp [sends, along, hv]
      · exact absurd (hw.symm.trans hf) (by simp)
      · rw [h]
        simp [along]
  · obtain ⟨pages, rest, last, hr, -, h⟩ := c.listFrom_cases [] [] first replies
    have hp := length_flatMap_sends c pages
    have hlen : replies.length = (pages.flatMap (·.replies)).length + rest.length := by simp [hr]
    rw [← ho] at h
    rcases h with ⟨v, _, left, _, -, rfl, -, h⟩ | ⟨_, _, -, h⟩ | ⟨d, more, _, _, -, rfl, -, h⟩
    all_goals
      simp only [h, List.nil_append, List.length_append, hp, Visit.length_sends, length_along,
        Detour.length_replies] at hlen ⊢
      omega

end Pages

/-- An answer that is no page is gone past if it says where the page is. And not every web address
is one that a request can name. -/
theorem Client.list_passes_redirect :
    let c : Client := ⟨"http://api.test", none⟩
    let moved : Response := ⟨301, [("Location", "/p2")], some []⟩
    let out := c.list "o" "r" (.start (.server [.answer moved, .answer ⟨204, [], some []⟩]))
    let odd : Client := ⟨"http://\x7bx\x7d", none⟩
    let address := "http://\x7bx\x7d/repos/o/r/contributors?per_page=100"
    let nothing := odd.list "o" "r" (.start (.server []))
    moved.isSuccess = false ∧ out.1 = .ok [] ∧
      out.2.requests.map (·.url) =
        ["http://api.test/repos/o/r/contributors?per_page=100", "http://api.test/p2"] ∧
      (Address.parse? address).map (·.scheme) = some "http" ∧
      nothing.1 = .error (.request (.notUri address)) ∧ nothing.2.requests = [] := by
  intro c moved out odd address nothing
  let first := "http://api.test/repos/o/r/contributors?per_page=100"
  have hl : Detour.Leads first [(moved, "http://api.test/p2")] := ⟨by decide +kernel, trivial⟩
  let v : Visit := ⟨first, _, ⟨204, [], some []⟩, ⟨by decide +kernel, hl, by decide⟩, rfl⟩
  have hv : Completes v.answer [] := .empty rfl
  have ho : out = _ := c.listFrom_completes [] [] hv []
  have hf : addressFault? address = some (.notUri address) := by decide +kernel
  have ha : odd.listingUrl "o" "r" = address := by decide +kernel
  have hn : nothing = _ := odd.listFrom_stuck [] [] (leads_nil.2 ha.symm) hf []
  rw [ho, hn]
  exact ⟨rfl, rfl, rfl, by decide +kernel, rfl, rfl⟩

end CreditRoll.Github
