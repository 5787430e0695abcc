import CreditRoll.Proofs.Exchange

namespace CreditRoll.Github

open Http Url

section Relaying

variable [Library]

/-- What the reply to `before` makes of a request that was `first` at first: `k` and `j` are the
places of these two in all that is sent. -/
structure SentOn (sent : List Request) (replies : List Reply) (k j : Nat)
    (first before request : Request) : Prop where
  le : k ≤ j
  first_at : sent[k]? = some first
  before_at : sent[j]? = some before
  target : ∃ r, replies[j]? = some (.answer r) ∧ r.target? before.url = some request.url
  redirected : ∃ asked, request = first.redirected (before.url :: asked) request.url ∧
    ∀ address ∈ asked, ∃ l p, k ≤ l ∧ l ≤ j ∧ sent[l]? = some p ∧ p.url = address

namespace SentOn

variable {sent : List Request} {replies : List Reply} {k j : Nat} {first before request : Request}

theorem append (h : SentOn sent replies k j first before request) (sent' : List Request)
    (replies' : List Reply) :
    SentOn (sent ++ sent') (replies ++ replies') k j first before request := by
  have ha {l : Nat} {p : Request} (hl : sent[l]? = some p) : (sent ++ sent')[l]? = some p := by
    rwa [List.getElem?_append_left (List.getElem?_eq_some_iff.1 hl).1]
  obtain ⟨r, hr, ht⟩ := h.target
  obtain ⟨asked, hq, hp⟩ := h.redirected
  refine ⟨h.le, ha h.first_at, ha h.before_at, ⟨r, ?_, ht⟩, asked, hq, fun address hm ↦ ?_⟩
  · rwa [List.getElem?_append_left (List.getElem?_eq_some_iff.1 hr).1]
  · obtain ⟨l, p, hk, hj, hl, hu⟩ := hp address hm
    exact ⟨l, p, hk, hj, ha hl, hu⟩

theorem shift {front : List Request} {rest : List Reply} (hl : rest = replies.drop front.length)
    (h : SentOn sent rest k j first before request) :
    SentOn (front ++ sent) replies (front.length + k) (front.length + j) first before request := by
  have ha {l : Nat} {p : Request} (hl : sent[l]? = some p) :
      (front ++ sent)[front.length + l]? = some p := by
    rwa [List.getElem?_append_right (Nat.le_add_right _ _), Nat.add_sub_cancel_left]
  obtain ⟨r, hr, ht⟩ := h.target
  obtain ⟨asked, hq, hp⟩ := h.redirected
  rw [hl, List.getElem?_drop] at hr
  refine ⟨Nat.add_le_add_left h.le _, ha h.first_at, ha h.before_at, ⟨r, hr, ht⟩, asked, hq, ?_⟩
  intro address hm
  obtain ⟨l, p, hk, hj, hl, hu⟩ := hp address hm
  exact ⟨_, p, Nat.add_le_add_left hk _, Nat.add_le_add_left hj _, ha hl, hu⟩

theorem headers (h : SentOn sent replies k j first before request) :
    ∃ (asked referer : List String), (∀ address ∈ asked, ∃ l p, k ≤ l ∧ l ≤ j ∧ sent[l]? = some p ∧
        p.url = address) ∧
      request.headers =
        first.headers.filter (!Library.withholds (before.url :: asked) request.url ·.1) ++
          referer.map ("referer", ·) := by
  obtain ⟨asked, hq, hp⟩ := h.redirected
  exact ⟨asked, (Library.referer? (before.url :: asked) request.url).toList, hp,
    congrArg Request.headers hq⟩

end SentOn

end Relaying

section Origins

variable [Idna] [Library]

/-- A request that is sent on to another server does not say who sends it. -/
theorem SentOn.authorization (hg : Library.Guarded) {sent : List Request} {replies : List Reply}
    {k j : Nat} {first before request : Request}
    (h : SentOn sent replies k j first before request)
    (hs : ¬ SameServer before.url request.url) :
    "authorization" ∉ request.headers.map (·.1) := by
  obtain ⟨asked, referer, -, hq⟩ := h.headers
  have hw : Library.withholds (before.url :: asked) request.url "authorization" = true :=
    hg.guarded hs
  rw [hq, List.map_append, List.mem_append, List.mem_map, List.mem_map]
  rintro (⟨field, hm, hf⟩ | ⟨field, hm, hf⟩)
  · have hn := (List.mem_filter.1 hm).2
    rw [hf, hw] at hn
    cases hn
  · obtain ⟨address, -, rfl⟩ := List.mem_map.1 hm
    have hf : "referer" = "authorization" := hf
    exact absurd hf (by decide)

theorem Detour.exists_sentOn (first request : Request) {d : Detour} (h : d.Leads request.url)
    (asked : List String) {i : Nat} {q : Request}
    (hq : (d.requests first (request.url :: asked))[i]? = some q) :
    let sent := request :: d.requests first (request.url :: asked)
    ∃ p r asked', sent[i]? = some p ∧ d.replies[i]? = some (.answer r) ∧
      r.target? p.url = some q.url ∧ q = first.redirected (p.url :: asked') q.url ∧
      ∀ address ∈ asked', address ∈ asked ∨
        ∃ l p', l ≤ i ∧ sent[l]? = some p' ∧ p'.url = address := by
  induction d generalizing request asked i with
  | nil => cases hq
  | cons hop d ih =>
    obtain ⟨hh, hl⟩ := h
    cases i with
    | zero =>
      cases hq
      exact ⟨request, hop.1, asked, rfl, rfl, (hop?_eq_some_iff.1 hh).2.1, rfl, fun _ ↦ .inl⟩
    | succ i =>
      let next := first.redirected (request.url :: asked) hop.2
      obtain ⟨p, r, asked', hp, hr, ht, he, ha⟩ :=
        ih next hl (request.url :: asked) hq
      refine ⟨p, r, asked', hp, hr, ht, he, fun address hm ↦ ?_⟩
      rcases ha address hm with ha | ⟨l, p', hli, hl, hu⟩
      · rcases List.mem_cons.1 ha with rfl | ha
        · exact .inr ⟨0, request, Nat.zero_le _, rfl, rfl⟩
        · exact .inl ha
      · exact .inr ⟨l + 1, p', Nat.succ_le_succ hli, hl, hu⟩

namespace Client

variable (c : Client)

/-- What a client sends for addresses that it asks for one after the other, up to one that is of no
use. -/
def askedFor : List String → List Reply → List Request
  | [], _ => []
  | url :: urls, replies =>
    if IsWebUrl url then c.asks url replies ++ askedFor urls (left url replies) else []

theorem length_asks_le (url : String) (replies : List Reply) :
    (c.asks url replies).length ≤ replies.length + 1 ∧
      (c.asks url replies).length ≤ Request.maxRedirects + 1 := by
  have hd := congrArg List.length (Detour.replies_detour Request.maxRedirects url replies)
  rw [List.length_append, Detour.length_replies] at hd
  have hl : (c.asks url replies).length = (redirects url replies).length + 1 := c.length_along ..
  have hn : (redirects url replies).length ≤ Request.maxRedirects :=
    (Detour.leads_detour _ url replies).2
  have hr : (redirects url replies).length ≤ replies.length := Nat.le.intro hd
  omega

theorem length_askedFor_le (urls : List String) (replies : List Reply) :
    (c.askedFor urls replies).length ≤ (Request.maxRedirects + 1) * urls.length := by
  induction urls generalizing replies with
  | nil => exact Nat.zero_le _
  | cons url urls ih =>
    rw [askedFor, List.length_cons, Nat.mul_succ]
    split
    · have hl := (c.length_asks_le url replies).2
      have hi := ih (left url replies)
      rw [List.length_append]
      omega
    · exact Nat.zero_le _

theorem askedFor_singleton (url : String) (replies : List Reply) :
    c.askedFor [url] replies = if IsWebUrl url then c.asks url replies else [] := by
  simp only [askedFor, List.append_nil]

theorem askedFor_visits (visits : List Visit) (urls : List String) (rest : List Reply) :
    c.askedFor (visits.map (·.url) ++ urls) (visits.flatMap (·.replies) ++ rest) =
      visits.flatMap c.sends ++ c.askedFor urls rest := by
  induction visits with
  | nil => rfl
  | cons v visits ih =>
    rw [List.map_cons, List.cons_append, askedFor, if_pos v.follows.web, List.flatMap_cons,
      List.append_assoc, v.asks_eq, v.left_eq, ih, List.flatMap_cons, List.append_assoc]

theorem asks_origin {url : String} {replies : List Reply} {i : Nat} {q : Request}
    (h : (c.asks url replies)[i]? = some q) :
    q = c.request url ∨ ∃ j p, i = j + 1 ∧
      SentOn (c.asks url replies) replies 0 j (c.request url) p q := by
  cases i with
  | zero =>
    cases h
    exact .inl rfl
  | succ i =>
    obtain ⟨hd, -⟩ := Detour.leads_detour Request.maxRedirects url replies
    obtain ⟨p, r, asked, hp, hr, ht, hq, ha⟩ :=
      Detour.exists_sentOn (c.request url) (c.request url) hd [] h
    refine .inr ⟨i, p, rfl, Nat.zero_le i, rfl, hp, ⟨r, ?_, ht⟩, asked, hq, fun address hm ↦ ?_⟩
    · have hlt := (List.getElem?_eq_some_iff.1 hr).1
      rw [← Detour.replies_detour Request.maxRedirects url replies,
        List.getElem?_append_left hlt]
      exact hr
    · rcases ha address hm with hn | ⟨l, p', hl, hp', hu⟩
      · cases hn
      · exact ⟨l, p', Nat.zero_le l, hl, hp', hu⟩

/-- Every request is one for an address asked for, or the reply to the one before sends it on. -/
theorem exists_origin {urls : List String} {replies : List Reply} {i : Nat} {q : Request}
    (h : (c.askedFor urls replies)[i]? = some q) :
    (∃ url ∈ urls, q = c.request url) ∨
      ∃ k j p, ∃ url ∈ urls, i = j + 1 ∧
        SentOn (c.askedFor urls replies) replies k j (c.request url) p q := by
  induction urls generalizing replies i with
  | nil => cases h
  | cons url urls ih =>
    rw [askedFor] at h ⊢
    split at h
    · next hw =>
      rw [if_pos hw]
      rcases Nat.lt_or_ge i (c.asks url replies).length with hi | hi
      · rw [List.getElem?_append_left hi] at h
        rcases c.asks_origin h with rfl | ⟨j, p, hj, hs⟩
        · exact .inl ⟨url, List.mem_cons_self, rfl⟩
        · have hs := hs.append (askedFor c urls (left url replies)) []
          rw [List.append_nil] at hs
          exact .inr ⟨0, j, p, url, List.mem_cons_self, hj, hs⟩
      · rw [List.getElem?_append_right hi] at h
        rcases ih h with ⟨u, hu, hq⟩ | ⟨k, j, p, u, hu, hj, hs⟩
        · exact .inl ⟨u, List.mem_cons_of_mem _ hu, hq⟩
        · have hl : left url replies = replies.drop (c.asks url replies).length := by
            rw [left, asks, c.length_along]
          exact .inr ⟨_, _, p, u, List.mem_cons_of_mem _ hu, by omega, hs.shift hl⟩
    · cases h

/-- What holds of every address that is asked for, and is kept by every answer that sends a request
on, holds of every request. -/
theorem forall_mem_askedFor {P : String → Prop} {urls : List String} {replies : List Reply}
    (hu : ∀ url ∈ urls, P url)
    (hr : ∀ r url target, .answer r ∈ replies → P url → r.target? url = some target → P target) :
    ∀ q ∈ c.askedFor urls replies, P q.url := by
  have h (i : Nat) (q : Request) (hq : (c.askedFor urls replies)[i]? = some q) : P q.url := by
    induction i generalizing q with
    | zero =>
      rcases c.exists_origin hq with ⟨url, hm, rfl⟩ | ⟨_, j, _, _, _, hj, -⟩
      · exact hu url hm
      · cases hj
    | succ i ih =>
      rcases c.exists_origin hq with ⟨url, hm, rfl⟩ | ⟨_, j, p, _, _, hj, hs⟩
      · exact hu url hm
      · cases hj
        obtain ⟨r, hrp, ht⟩ := hs.target
        exact hr r p.url q.url (List.mem_of_getElem? hrp) (ih p hs.before_at) ht
  intro q hq
  obtain ⟨i, hi⟩ := List.mem_iff_getElem?.1 hq
  exact h i q hi

end Client

end Origins

end CreditRoll.Github
