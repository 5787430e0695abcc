import CreditRoll.Proofs.Accounting
import CreditRoll.Proofs.Origin
import CreditRoll.Proofs.Refinement
import Mathlib.Data.List.Chain
import Mathlib.Data.List.Perm.Subperm

namespace CreditRoll.Github

open Event Http Url

section Chain

variable {α : Type} {R : α → α → Prop} {x : α}

/-- Where every step is determined, the longer of two ways goes on where the shorter one ends. -/
theorem prefix_of_isChain (hR : Relator.RightUnique R) {s l : List α}
    (hs : (x :: s).IsChain R) (hl : (x :: l).IsChain R) (h : s.length ≤ l.length) : s <+: l := by
  induction s generalizing x l with
  | nil => exact List.nil_prefix
  | cons y s ih =>
    cases l with
    | nil => simp at h
    | cons z l =>
      obtain ⟨hy, hs⟩ := List.isChain_cons_cons.1 hs
      obtain ⟨hz, hl⟩ := List.isChain_cons_cons.1 hl
      obtain rfl := hR hy hz
      exact (List.prefix_cons_inj y).2 (ih hs hl (by simpa using h))

theorem drop_prefix_drop (hR : Relator.RightUnique R) {way : List α} (hw : way.IsChain R)
    {i j : Nat} (hij : i < j) (hi : way[i]? = some x) (hj : way[j]? = some x) :
    way.drop j <+: way.drop i := by
  obtain ⟨hil, hi⟩ := List.getElem?_eq_some_iff.1 hi
  obtain ⟨hjl, hj⟩ := List.getElem?_eq_some_iff.1 hj
  have hci := hw.drop i
  have hcj := hw.drop j
  rw [List.drop_eq_getElem_cons hil, hi] at hci ⊢
  rw [List.drop_eq_getElem_cons hjl, hj] at hcj ⊢
  refine (List.prefix_cons_inj x).2 (prefix_of_isChain hR hcj hci ?_)
  simp only [List.length_drop]
  omega

/-- A way that comes to a place again goes on from everywhere. -/
theorem exists_step_of_again (hR : Relator.RightUnique R) {way : List α} (hw : way.IsChain R)
    {i j : Nat} (hij : i < j) (hi : way[i]? = some x) (hj : way[j]? = some x) {last : α}
    (hl : way.getLast? = some last) : ∃ y, R last y := by
  obtain ⟨t, ht⟩ := drop_prefix_drop hR hw hij hi hj
  have hjl := (List.getElem?_eq_some_iff.1 hj).1
  rw [List.getLast?_eq_getElem?] at hl
  have hk : (way.drop i)[way.length - 1 - j]? = some last := by
    rw [← ht, List.getElem?_append_left (by simp only [List.length_drop]; omega),
      List.getElem?_drop, Nat.add_sub_cancel' (by omega), hl]
  rw [List.getElem?_drop] at hk
  obtain ⟨hk, rfl⟩ := List.getElem?_eq_some_iff.1 hk
  exact ⟨_, List.isChain_iff_getElem.1 hw _ (by omega)⟩

end Chain

/-- Whether `answer` tells how the requests for some addresses are answered. -/
def AnsweredBy (answer : String → Reply) (sent : List String) (replies : List Reply) : Prop :=
  ∀ p ∈ sent.zip replies, p.2 = answer p.1

theorem answeredBy_append {answer : String → Reply} {sent sent' : List String}
    {replies replies' : List Reply} (h : sent.length = replies.length) :
    AnsweredBy answer (sent ++ sent') (replies ++ replies') ↔
      AnsweredBy answer sent replies ∧ AnsweredBy answer sent' replies' := by
  simp only [AnsweredBy, List.zip_append h, List.forall_mem_append]

def Detour.places (url : String) (d : Detour) : List String := url :: d.map (·.2)

theorem Detour.length_places (url : String) (d : Detour) :
    (d.places url).length = d.length + 1 := by
  rw [places, List.length_cons, List.length_map]

theorem Detour.getLast?_places (url : String) (d : Detour) :
    (d.places url).getLast? = some (d.place url) := by
  induction d generalizing url with
  | nil => rfl
  | cons hop d ih =>
    have hp : places url (hop :: d) = url :: places hop.2 d := rfl
    rw [hp, List.getLast?_cons, ih]
    rfl

theorem Detour.place_eq {url : String} {d d' : Detour} (h : d.places url = d'.places url) :
    d.place url = d'.place url :=
  Option.some.inj ((d.getLast?_places url).symm.trans
    ((congrArg List.getLast? h).trans (d'.getLast?_places url)))

section Answers

variable [Idna] [Library] {answer : String → Reply} {url : String} {d d' : Detour}

theorem Client.map_url_along (c : Client) (url : String) (d : Detour) :
    (c.along url d).map (·.url) = d.places url := by
  have h (first : Request) (asked : List String) (d : Detour) :
      (d.requests first asked).map (·.url) = d.map (·.2) := by
    induction d generalizing asked with
    | nil => rfl
    | cons hop d ih => exact congrArg (hop.2 :: ·) (ih (hop.2 :: asked))
  exact congrArg (url :: ·) (h (c.request url) [url] d)

def Hops (answer : String → Reply) (url target : String) : Prop :=
  ∃ r, hop? url (answer url) = some (r, target)

theorem rightUnique_hops (answer : String → Reply) : Relator.RightUnique (Hops answer) := by
  rintro url target target' ⟨r, hr⟩ ⟨r', hr'⟩
  exact congrArg Prod.snd (Option.some.inj (hr.symm.trans hr'))

theorem Detour.isChain_places {more : List Reply} (hl : d.Leads url)
    (ha : AnsweredBy answer (d.places url) (d.replies ++ more)) :
    (d.places url).IsChain (Hops answer) := by
  induction d generalizing url with
  | nil => exact List.isChain_singleton url
  | cons hop d ih =>
    obtain ⟨hh, hl⟩ := hl
    obtain ⟨hr, ha⟩ := List.forall_mem_cons.1 ha
    refine List.isChain_cons_cons.2 ⟨⟨hop.1, ?_⟩, ih hl ha⟩
    exact hr ▸ hh

/-- No detour is longer than one that comes to a place from where nothing is sent on. -/
theorem Detour.length_le_of_stop (hd : (d.places url).IsChain (Hops answer))
    (hd' : (d'.places url).IsChain (Hops answer))
    (hs : ∀ target, ¬ Hops answer (d.place url) target) :
    d'.length ≤ d.length := by
  by_contra hn
  obtain ⟨t, ht⟩ := prefix_of_isChain (rightUnique_hops answer) hd hd'
    (by simp only [List.length_map]; omega)
  cases t with
  | nil =>
    have hl := congrArg List.length ht
    simp only [List.append_nil, List.length_map] at hl
    omega
  | cons target t =>
    have hp : d'.places url = d.places url ++ target :: t := congrArg (url :: ·) ht.symm
    rw [hp, List.isChain_append] at hd'
    exact hs target (hd'.2.2 _ (d.getLast?_places url) _ rfl)

theorem Detour.places_eq (hd : (d.places url).IsChain (Hops answer))
    (hd' : (d'.places url).IsChain (Hops answer)) (hl : d.length = d'.length) :
    d.places url = d'.places url := by
  have hn : (d.map (·.2)).length = (d'.map (·.2)).length := by simp only [List.length_map, hl]
  have hp := prefix_of_isChain (rightUnique_hops answer) hd hd' hn.le
  exact congrArg (url :: ·) (hp.eq_of_length hn)

def Visit.AnsweredBy (v : Visit) (answer : String → Reply) : Prop :=
  Github.AnsweredBy answer (v.detour.places v.url) v.replies

namespace Visit.AnsweredBy

variable {v w : Visit}

theorem isChain (h : v.AnsweredBy answer) : (v.detour.places v.url).IsChain (Hops answer) :=
  Detour.isChain_places v.follows.leads h

theorem answer_place (h : v.AnsweredBy answer) :
    answer (v.detour.place v.url) = .answer v.answer := by
  obtain ⟨front, hf⟩ := List.getLast?_eq_some_iff.1 (v.detour.getLast?_places v.url)
  have hn := v.detour.length_places v.url
  rw [hf, List.length_append, List.length_singleton] at hn
  have hl : front.length = v.detour.replies.length := by
    rw [v.detour.length_replies]
    omega
  rw [Visit.AnsweredBy, hf, Visit.replies, answeredBy_append hl] at h
  exact (h.2 _ List.mem_cons_self).symm

theorem not_hops (h : v.AnsweredBy answer) (target : String) :
    ¬ Hops answer (v.detour.place v.url) target := by
  rintro ⟨r, hr⟩
  rw [h.answer_place] at hr
  obtain ⟨he, ht, -⟩ := hop?_eq_some_iff.1 hr
  rw [← Reply.answer.inj he, v.final] at ht
  cases ht

/-- Two visits to one place come to one answer. -/
theorem answer_eq (hv : v.AnsweredBy answer) (hw : w.AnsweredBy answer) (hu : v.url = w.url) :
    v.answer = w.answer := by
  have hcv := hv.isChain
  have hcw := hw.isChain
  have hsv := hv.not_hops
  have hsw := hw.not_hops
  rw [hu] at hcv hsv
  have hl : v.detour.length = w.detour.length :=
    Nat.le_antisymm (Detour.length_le_of_stop hcw hcv hsw) (Detour.length_le_of_stop hcv hcw hsv)
  have hp := Detour.place_eq (Detour.places_eq hcv hcw hl)
  have ha := hv.answer_place
  rw [hu, hp, hw.answer_place] at ha
  exact (Reply.answer.inj ha).symm

end Visit.AnsweredBy

/-- Whether the page at an address leads to another address, if the service answers each address in
the same way all the time. -/
def Onward (answer : String → Reply) (url target : String) : Prop :=
  ∃ p : LinkedPage, p.url = url ∧ p.AnsweredBy answer ∧ p.target = target

theorem rightUnique_onward (answer : String → Reply) : Relator.RightUnique (Onward answer) := by
  rintro url _ _ ⟨p, rfl, hp, rfl⟩ ⟨q, hu, hq, rfl⟩
  have hr : p.answer = q.answer := hp.answer_eq hq hu.symm
  exact Option.some.inj (p.holds.links.symm.trans (hr ▸ q.holds.links))

theorem LinkedPage.not_completes (p : LinkedPage) {entries : List Entry} :
    ¬ Completes p.answer entries := by
  rintro (h | h)
  · exact p.holds.content h
  · cases p.holds.links.symm.trans h.links

theorem LinkedPage.not_breaks (p : LinkedPage) {place : String} {hops : Nat} {e : Error} :
    ¬ Breaks place hops (.answer p.answer) e := by
  have hn := target?_of_isSuccess p.holds.success place
  intro h
  cases h with
  | refused _ h =>
    rw [check_of_content p.holds.success p.holds.content] at h
    cases h
  | unreadable _ _ hb => cases p.holds.decodes.symm.trans hb
  | misled ht => cases hn.symm.trans ht
  | endless ht => cases hn.symm.trans ht

/-- A listing does not end at a page that leads on, unless the script is used up. -/
theorem Ends.length_of_onward {target : String} {rest : List Reply} (c : Client)
    (h : Ends url rest) (ha : Github.AnsweredBy answer ((c.askedFor [url] rest).map (·.url)) rest)
    (ho : Onward answer url target) : (c.askedFor [url] rest).length = rest.length + 1 := by
  obtain ⟨p, rfl, hp, -⟩ := ho
  rw [c.askedFor_singleton, if_pos p.follows.web] at ha ⊢
  cases h with
  | fault hf => exact absurd (p.follows.web.symm.trans hf) (by simp)
  | @completes v more entries hu hr hc =>
    subst hr
    rw [← hu, v.asks_eq, Client.sends, c.map_url_along] at ha
    have hv : v.AnsweredBy answer := by
      have hl : (v.detour.places v.url).length = v.replies.length := by
        rw [Detour.length_places, v.length_replies]
      rw [← List.append_nil (v.detour.places v.url), answeredBy_append hl] at ha
      exact ha.1
    exact absurd (hv.answer_eq hp hu ▸ hc) p.not_completes
  | @breaks d more e hd hr hb =>
    subst hr
    rw [hd.asks_eq hb.stops] at ha ⊢
    rw [c.map_url_along] at ha
    have hcd := Detour.isChain_places hd.leads ha
    cases more with
    | nil => rw [List.append_nil, c.length_along, d.length_replies]
    | cons reply more =>
      have hr : reply = answer (d.place p.url) := by
        obtain ⟨front, hf⟩ := List.getLast?_eq_some_iff.1 (d.getLast?_places p.url)
        have hn := d.length_places p.url
        rw [hf, List.length_append, List.length_singleton] at hn
        have hl : front.length = d.replies.length := by
          rw [d.length_replies]
          omega
        rw [hf, answeredBy_append hl] at ha
        exact ha.2 _ List.mem_cons_self
      have hb : Breaks (d.place p.url) d.length reply e := hb
      have hle := Detour.length_le_of_stop hp.isChain hcd hp.not_hops
      have hge : p.detour.length ≤ d.length := by
        by_contra hn
        have hmax := p.follows.few
        refine hn (Detour.length_le_of_stop hcd hp.isChain ?_)
        rintro target ⟨r, ht⟩
        rw [← hr, hb.stops (by omega)] at ht
        cases ht
      have he := Detour.place_eq (Detour.places_eq hcd hp.isChain (Nat.le_antisymm hle hge))
      rw [he, hp.answer_place] at hr
      exact absurd (hr ▸ hb) p.not_breaks

theorem isChain_trail (c : Client) {pages : List LinkedPage} {last : String}
    (hl : Leads url pages last)
    (ha : AnsweredBy answer ((pages.flatMap (c.sends ·.toVisit)).map (·.url))
      (pages.flatMap (·.replies))) : (trail url pages).IsChain (Onward answer) := by
  induction pages generalizing url with
  | nil => exact List.isChain_singleton url
  | cons p pages ih =>
    obtain ⟨hu, hl⟩ := leads_cons.1 hl
    rw [List.flatMap_cons, List.map_append, List.flatMap_cons, answeredBy_append, Client.sends,
      c.map_url_along] at ha
    · exact List.isChain_cons_cons.2 ⟨⟨p, hu, ha.1, rfl⟩, ih hl ha.2⟩
    · rw [List.length_map, Visit.length_sends]

theorem getLast?_trail {pages : List LinkedPage} {last : String} (h : Leads url pages last) :
    (trail url pages).getLast? = some last := by
  rw [h, List.getLast?_concat]

namespace Client

variable (c : Client)

/-- The addresses that a listing asks for are those of the pages that follow each other. -/
theorem listFrom_trail (url : String) (replies : List Reply) :
    let out := (c.listFrom url (.start (.server replies))).2
    ∃ (pages : List LinkedPage) (rest : List Reply) (last : String),
      replies = pages.flatMap (·.replies) ++ rest ∧ Leads url pages last ∧ Ends last rest ∧
      out.trace.filterMap get? = trail url pages ∧
      out.requests = pages.flatMap (c.sends ·.toVisit) ++ c.askedFor [last] rest := by
  intro out
  obtain ⟨pages, rest, last, rfl, hl, he⟩ := exists_pages url replies
  have ht : ∀ steps : List Event, steps.filterMap get? = [last] →
      (pageSteps pages ++ steps).filterMap get? = trail url pages := by
    intro steps hs
    rw [List.filterMap_append, pageSteps_get, hs, hl]
  refine ⟨pages, rest, last, rfl, hl, he, ?_⟩
  rw [c.askedFor_singleton]
  cases he with
  | @fault fault hf =>
    have hw : ¬ IsWebUrl last := by simp [IsWebUrl, hf]
    have h : out = _ := congrArg Prod.snd (c.listFrom_stuck [] [] hl hf rest)
    rw [h, if_neg hw, List.append_nil]
    exact ⟨ht [.get last] rfl, rfl⟩
  | @completes v more entries hv hr hc =>
    subst hv hr
    have h : out = _ := congrArg Prod.snd (c.listFrom_whole_steps [] [] hl hc more)
    rw [h, if_pos v.follows.web, v.asks_eq]
    exact ⟨ht _ lastSteps_get, rfl⟩
  | @breaks d more e hd hr hb =>
    subst hr
    have h : out = _ := congrArg Prod.snd (c.listFrom_broken [] [] hl hd hb)
    rw [h, if_pos hd.web, hd.asks_eq hb.stops]
    exact ⟨ht [.get last] rfl, rfl⟩

/-- What a listing asks for is a way along the links, which it leaves before the end of the script
only where no link leads on. -/
theorem exists_way (url : String) (replies : List Reply) :
    let out := (c.listFrom url (.start (.server replies))).2
    let asked := out.trace.filterMap get?
    AnsweredBy answer (out.requests.map (·.url)) replies →
    out.requests = c.askedFor asked replies ∧ out.requests.length ≤ replies.length + 1 ∧
    asked.IsChain (Onward answer) ∧
    ∃ last, asked.getLast? = some last ∧
      ∀ target, Onward answer last target → out.requests.length = replies.length + 1 := by
  intro out asked ha
  obtain ⟨pages, rest, last, hr, hl, he, ht, hs⟩ := c.listFrom_trail url replies
  have ht : asked = trail url pages := ht
  have hs : out.requests = _ := hs
  have hn := length_flatMap_sends c pages
  rw [hs, List.map_append, hr, answeredBy_append (by rw [List.length_map, hn])] at ha
  have hv := c.askedFor_visits (pages.map (·.toVisit)) [last] rest
  rw [List.map_map, List.flatMap_map, List.flatMap_map] at hv
  have hrest : (c.askedFor [last] rest).length ≤ rest.length + 1 := by
    rw [c.askedFor_singleton]
    split
    · exact (c.length_asks_le last rest).1
    · exact Nat.zero_le _
  rw [ht]
  refine ⟨?_, ?_, isChain_trail c hl ha.1, last, getLast?_trail hl, fun target ho ↦ ?_⟩
  · rw [hs, hl, hr]
    exact hv.symm
  · rw [hs, hr, List.length_append, List.length_append, hn]
    omega
  · have hend := he.length_of_onward c ha.2 ho
    rw [hs, hr, List.length_append, List.length_append, hn]
    omega

/-- Where the service answers each address in the same way all the time, a listing that ends before
the script asks for every page once, and so for no more of them than the service has, each with no
more redirects than a request may go through. A listing that asks for a page again goes round in the
same way for as long as there are answers. -/
theorem list_ends_or_goes_round (owner name : String) (replies : List Reply)
    (answer : String → Reply) :
    let out := (c.list owner name (.start (.server replies))).2
    let asked := out.trace.filterMap get?
    let sent := out.requests
    AnsweredBy answer (sent.map (·.url)) replies →
    sent = c.askedFor asked replies ∧ sent.length ≤ replies.length + 1 ∧
    sent.length ≤ (Request.maxRedirects + 1) * asked.length ∧
    (sent.length ≤ replies.length →
      asked.Nodup ∧ ∀ known, asked ⊆ known → asked.length ≤ known.length) ∧
    ∀ (i j : Nat) (url : String), i < j → asked[i]? = some url → asked[j]? = some url →
      asked.drop j <+: asked.drop i ∧ sent.length = replies.length + 1 := by
  intro out asked sent ha
  obtain ⟨hs, hlen, hway, last, hlast, honward⟩ :
      sent = c.askedFor asked replies ∧ sent.length ≤ replies.length + 1 ∧
        asked.IsChain (Onward answer) ∧ ∃ last, asked.getLast? = some last ∧
          ∀ target, Onward answer last target → sent.length = replies.length + 1 :=
    c.exists_way (c.listingUrl owner name) replies ha
  have hR := rightUnique_onward answer
  have hround {i j : Nat} {url : String} (hij : i < j) (hi : asked[i]? = some url)
      (hj : asked[j]? = some url) :
      asked.drop j <+: asked.drop i ∧ sent.length = replies.length + 1 := by
    obtain ⟨target, ht⟩ := exists_step_of_again hR hway hij hi hj hlast
    exact ⟨drop_prefix_drop hR hway hij hi hj, honward target ht⟩
  have hmost : sent.length ≤ (Request.maxRedirects + 1) * asked.length := by
    rw [hs]
    exact c.length_askedFor_le asked replies
  refine ⟨hs, hlen, hmost, fun hl ↦ ?_, fun i j url ↦ hround⟩
  have hn : asked.Nodup := by
    refine List.nodup_iff_getElem?_ne_getElem?.2 fun i j hij hj he ↦ ?_
    have hj := List.getElem?_eq_getElem hj
    have := (hround hij (he.trans hj) hj).2
    omega
  exact ⟨hn, fun known hk ↦ (List.Nodup.subperm hn hk).length_le⟩

end Client

end Answers

namespace Client

theorem list_ends_or_goes_round_two_pages :
    let c : Client := ⟨"https://api.github.com", none⟩
    let first := c.listingUrl "o" "r"
    let page : SentPage := ⟨[⟨"mona", 2, none⟩], [⟨.next, "https://api.github.com/p2"⟩]⟩
    let last : SentPage := ⟨[⟨"hubot", 1, none⟩], [⟨.prev, first⟩]⟩
    let replies := [.answer page.response, .answer last.response]
    let answer := fun url ↦ .answer (if url = first then page.response else last.response)
    let out := (c.list "o" "r" (.start (.server replies))).2
    AnsweredBy answer (out.requests.map (·.url)) replies ∧ out.requests.length = 2 ∧
      (out.trace.filterMap get?).Nodup := by
  intro c first page last replies answer out
  have hp := page.in_response.holds (by decide) (by decide)
  have hl := last.in_response.holds (by decide) (by decide)
  have hw : IsWebUrl first := by decide
  have ht : IsWebUrl "https://api.github.com/p2" := by decide
  let linked : LinkedPage := ⟨.direct hw (r := page.response) rfl, page.entries, _, hp⟩
  let v : Visit := .direct ht (r := last.response) rfl
  have hv : Completes v.answer last.entries := .page hl
  have hpages : Leads first [linked] v.url := rfl
  have h : c.list "o" "r" (.start (.server replies)) = _ :=
    c.listFrom_whole_steps [] [] hpages hv []
  have hs : out.requests.map (·.url) = [first, "https://api.github.com/p2"] :=
    congrArg (fun out ↦ out.2.requests.map (·.url)) h
  have ha : AnsweredBy answer (out.requests.map (·.url)) replies := by
    rw [hs]
    exact List.forall_mem_cons.2 ⟨rfl, List.forall_mem_singleton.2 rfl⟩
  have hlen : out.requests.length = 2 := by
    have hn := congrArg List.length hs
    rwa [List.length_map] at hn
  obtain ⟨-, -, -, hn, -⟩ := c.list_ends_or_goes_round "o" "r" replies answer ha
  exact ⟨ha, hlen, (hn hlen.le).1⟩

/-- A page that leads to itself is read for as long as the service answers, and its entries are
listed each time. -/
theorem list_goes_round_self_link :
    let c : Client := ⟨"https://api.github.com", none⟩
    let first := c.listingUrl "o" "r"
    let page : SentPage := ⟨[⟨"mona", 2, none⟩], [⟨.next, first⟩]⟩
    let again := .answer page.response
    let asked := fun replies ↦
      (c.list "o" "r" (.start (.server replies))).2.requests.map (·.url)
    asked [again, again, again] = [first, first, first, first] ∧
    asked [again, again, .answer ⟨204, [], some []⟩] = [first, first, first] ∧
    (c.list "o" "r" (.start (.server [again, again, .answer ⟨204, [], some []⟩]))).1 =
      .ok [⟨"mona", 2, none⟩, ⟨"mona", 2, none⟩] := by
  intro c first page again asked
  have hp := page.in_response.holds (by decide) (by decide)
  have hw : IsWebUrl first := by decide
  let linked : LinkedPage := ⟨.direct hw (r := page.response) rfl, page.entries, first, hp⟩
  let v : Visit := .direct hw (r := ⟨204, [], some []⟩) rfl
  have hd : Detour.Follows first [] := ⟨hw, trivial, Nat.zero_le _⟩
  have h₂ : Leads first [linked, linked] v.url := rfl
  have h₃ : Leads first [linked, linked, linked] first := rfl
  have hb : Breaks first 0 (upcoming [])
      (.api 500 (Wire.errorMessage (Status.bodyText Network.exhausted))) := .refused rfl rfl
  have hv : Completes v.answer [] := .empty rfl
  have hr : c.list "o" "r" (.start (.server [again, again, again])) = _ :=
    c.listFrom_broken [] [] h₃ hd hb
  have hl : c.list "o" "r" (.start (.server [again, again, .answer ⟨204, [], some []⟩])) = _ :=
    c.listFrom_whole_steps [] [] h₂ hv []
  refine ⟨?_, ?_, ?_⟩
  · exact congrArg (fun out ↦ out.2.requests.map (·.url)) hr
  · exact congrArg (fun out ↦ out.2.requests.map (·.url)) hl
  · exact congrArg Prod.fst hl

end Client

end CreditRoll.Github
