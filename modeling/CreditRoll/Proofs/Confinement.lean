import CreditRoll.Proofs.Accounting
import CreditRoll.Proofs.Origin
import CreditRoll.Proofs.Refinement

namespace CreditRoll.Url

structure Site where
  scheme : String
  user : List Char
  host : Option (List Char)
  portNumber : Option Nat
  deriving DecidableEq, Repr

def Address.site (a : Address) : Site := ⟨a.scheme, a.user, a.host, a.portNumber⟩

def siteOf? [Idna] (url : String) : Option Site := (Address.parse? url).map (·.site)

end CreditRoll.Url

namespace CreditRoll.Github.Client

open Collection Http Url

section Confined

variable [Idna]

/-- Whatever path is asked for, the request goes to the site of the base. -/
theorem siteOf?_url {base : String} {token : Option String} {c : Client} {home : Site}
    (hc : make base token = .ok c) (hb : siteOf? (base ++ "/") = some home)
    {path : String} {t : List Char} (hp : path.toList = '/' :: t) :
    siteOf? (c.url path) = some home := by
  obtain ⟨hd, hw⟩ := make_ok hc
  obtain ⟨a, ha, rfl⟩ := Option.map_eq_some_iff.1 hb
  obtain ⟨n, hn⟩ := exists_dropSlashes base
  have hs : base ++ "/" = c.base ++ String.ofList ('/' :: List.replicate n '/') := by
    refine String.toList_injective ?_
    have hone : "/".toList = ['/'] := rfl
    rw [String.toList_append, hn, hd, String.toList_append, List.append_assoc, hone,
      String.toList_ofList, ← List.replicate_succ, List.replicate_succ']
  rw [hs] at ha
  obtain ⟨home, -, rfl, hu⟩ := exists_home hw ha
  rw [siteOf?, hu hp]
  rfl

variable [Library]

theorem mem_replies_of_mem_pages {pages : List LinkedPage} {p : LinkedPage} (hp : p ∈ pages)
    (rest : List Reply) : .answer p.answer ∈ pages.flatMap (·.replies) ++ rest := by
  refine List.mem_append_left _ (List.mem_flatMap.2 ⟨p, hp, ?_⟩)
  rw [Visit.replies]
  exact List.mem_append_right _ List.mem_cons_self

theorem gets_of_settles {c : Client} {url : String} {pages : List LinkedPage} {last : Visit}
    {more entries : List Entry} {steps : List Event} {credits : List Credit}
    (hl : Leads url pages last.url) (hs : Settles c [] entries steps credits) (path : String)
    (count : Nat) :
    (listingSteps pages last more ++ .listed path count :: steps).filterMap Event.get? =
      trail url pages ++ ((fresh [] entries).map (·.login)).map c.profileUrl := by
  have hn : Event.get? (.listed path count) = none := rfl
  rw [List.filterMap_append, List.filterMap_cons_none hn, listingSteps_get, hs.filterMap_get, hl,
    List.map_map]
  rfl

theorem askedFor_of_retraces (c : Client) {replies rest : List Reply} {steps : List Event}
    {visits : List Visit} (h : Retraces replies steps visits rest) (urls : List String) :
    c.askedFor (steps.filterMap Event.get? ++ urls) replies =
      visits.flatMap c.sends ++ c.askedFor urls rest := by
  rw [h.gets, h.script, askedFor_visits]

theorem exists_after_pages {pages : List LinkedPage} {visits : List Visit}
    {replies rest : List Reply} {steps : List Event} (h : Retraces replies steps visits rest)
    (hp : pages.map (·.toVisit) <+: visits) :
    ∃ rest', replies = pages.flatMap (·.replies) ++ rest' := by
  obtain ⟨others, rfl⟩ := hp
  have hr := h.script
  rw [List.flatMap_append, List.append_assoc, List.flatMap_map] at hr
  exact ⟨_, hr⟩

/-- A collection asks for the pages that follow each other and then for profiles. -/
theorem collect_asked (c : Client) (repository : Repository) (order : Order)
    (replies : List Reply) :
    ∃ (pages : List LinkedPage) (last : String) (rest : List Reply) (logins : List String),
      replies = pages.flatMap (·.replies) ++ rest ∧
      Leads (c.listingUrl repository.owner repository.name) pages last ∧
      (collect c.directory repository order (.start (.server replies))).2.requests =
        c.askedFor (trail (c.listingUrl repository.owner repository.name) pages ++
          logins.map c.profileUrl) replies := by
  have h := c.collect_course repository order replies
  generalize collect c.directory repository order (.start (.server replies)) = out at h ⊢
  cases h with
  | @whole pages last more _ rest steps credits hl hc hs ht =>
    obtain ⟨rest', hr⟩ := exists_after_pages ht ⟨_, (List.append_assoc ..).symm⟩
    have ha := c.askedFor_of_retraces ht []
    rw [List.append_nil, askedFor, List.append_nil] at ha
    let found := fresh [] (pages.flatMap (·.entries) ++ more)
    refine ⟨pages, last.url, rest', found.map (·.login), hr, hl, ?_⟩
    rw [← gets_of_settles hl hs, ha]
    rfl
  | @unlisted pages last rest e s hl ht hp =>
    obtain ⟨rest', hr⟩ := exists_after_pages ht (List.prefix_refl _)
    have hu : trail (c.listingUrl repository.owner repository.name) pages =
        (pageSteps pages).filterMap Event.get? ++ [last] := by rw [pageSteps_get, hl]
    refine ⟨pages, last, rest', [], hr, hl, ?_⟩
    rw [List.map_nil, List.append_nil, hu, c.askedFor_of_retraces ht, askedFor_singleton]
    exact (c.page_asks hp).2
  | @unresolved pages last more done others entry found rest steps credits e s hl hc hd hs ht hp =>
    obtain ⟨rest', hr⟩ := exists_after_pages ht ⟨_, (List.append_assoc ..).symm⟩
    refine ⟨pages, last.url, rest', (fresh [] done).map (·.login) ++ [entry.login], hr, hl, ?_⟩
    rw [List.map_append, ← List.append_assoc, ← gets_of_settles hl hs, List.map_singleton,
      c.askedFor_of_retraces ht, askedFor_singleton]
    exact (c.profile_asks hp).2

/-- A collection asks for the listing and for profiles on the site of the base, and apart from them
for what a page links to, each link followed right after its page. An answer can send a request on,
and where it goes to another server, it does not say who sends it. Nothing goes to another site as
long as no page links there and no answer sends a request on to there. -/
theorem collect_confined (hg : Library.Guarded) {base : String} {token : Option String} {c : Client}
    {home : Site} (hc : make base token = .ok c) (hb : siteOf? (base ++ "/") = some home)
    (repository : Repository) (order : Order) (replies : List Reply) :
    let first := c.listingUrl repository.owner repository.name
    let requests := (collect c.directory repository order (.start (.server replies))).2.requests
    siteOf? first = some home ∧ (∀ login, siteOf? (c.profileUrl login) = some home) ∧
    (∃ (pages : List LinkedPage) (last : String) (rest : List Reply) (logins : List String),
      let urls := trail first pages ++ logins.map c.profileUrl
      replies = pages.flatMap (·.replies) ++ rest ∧ Leads first pages last ∧
      requests = c.askedFor urls replies ∧
      ∀ (i : Nat) (q : Request), requests[i]? = some q →
        (∃ url ∈ urls, q = c.request url) ∨
          ∃ k j p r, ∃ url ∈ urls, i = j + 1 ∧ k ≤ j ∧ requests[k]? = some (c.request url) ∧
            requests[j]? = some p ∧ replies[j]? = some (.answer r) ∧
            r.target? p.url = some q.url ∧
            (¬ SameServer p.url q.url → "authorization" ∉ q.headers.map (·.1))) ∧
    ((∀ p : LinkedPage, .answer p.answer ∈ replies → siteOf? p.target = some home) →
      (∀ r url target, .answer r ∈ replies → siteOf? url = some home →
        r.target? url = some target → siteOf? target = some home) →
      ∀ q ∈ requests, siteOf? q.url = some home) := by
  intro first requests
  have hfirst : siteOf? first = some home := by
    obtain ⟨path, t, hp, he⟩ := c.exists_listingPath repository.owner repository.name
    exact (congrArg siteOf? he).trans (siteOf?_url hc hb hp)
  have hprofile (login : String) : siteOf? (c.profileUrl login) = some home := by
    obtain ⟨path, t, hp, he⟩ := c.exists_profilePath login
    exact (congrArg siteOf? he).trans (siteOf?_url hc hb hp)
  obtain ⟨pages, last, rest, logins, hr, hl, hs⟩ := c.collect_asked repository order replies
  refine ⟨hfirst, hprofile, ⟨pages, last, rest, logins, hr, hl, hs, fun i q hq ↦ ?_⟩,
    fun hp hm q hq ↦ ?_⟩
  · simp only [requests, hs] at hq ⊢
    refine (c.exists_origin hq).imp_right ?_
    rintro ⟨k, j, p, url, hu, hj, ht⟩
    obtain ⟨r, hr, htarget⟩ := ht.target
    exact ⟨k, j, p, r, url, hu, hj, ht.le, ht.first_at, ht.before_at, hr, htarget,
      ht.authorization hg⟩
  · have hu : ∀ url ∈ trail first pages ++ logins.map c.profileUrl, siteOf? url = some home := by
      refine List.forall_mem_append.2 ⟨List.forall_mem_cons.2 ⟨hfirst, ?_⟩, ?_⟩
      · refine List.forall_mem_map.2 fun p hm ↦ hp p ?_
        rw [hr]
        exact mem_replies_of_mem_pages hm rest
      · exact List.forall_mem_map.2 fun login _ ↦ hprofile login
    exact c.forall_mem_askedFor hu hm q (hs ▸ hq)

end Confined

theorem collect_confined_two_pages :
    let home : Site := ⟨"https", [], some "api.github.com".toList, none⟩
    let c : Client := ⟨"https://api.github.com", some "t"⟩
    let repository : Repository := ⟨"o", "r", by decide, by decide⟩
    let page : SentPage := ⟨[⟨"mona", 2, none⟩], [⟨.next, "https://api.github.com/p2"⟩]⟩
    let replies := [page.response, ⟨204, [], some []⟩].map Reply.answer
    make "https://api.github.com/" (some "t") = .ok c ∧
    siteOf? "https://api.github.com//" = some home ∧
    ∀ q ∈ (collect c.directory repository .listed (.start (.server replies))).2.requests,
      siteOf? q.url = some home := by
  intro home c repository page replies
  have hc : make "https://api.github.com/" (some "t") = .ok c := by decide
  have hb : siteOf? "https://api.github.com//" = some home := by decide
  obtain ⟨-, -, -, h⟩ :=
    collect_confined guarded_standardLibrary hc hb repository .listed replies
  refine ⟨hc, hb, h (fun p hp ↦ ?_) fun r url target hr _ ht ↦ ?_⟩
  · rcases List.mem_pair.1 hp with hp | hp
    · have hn : page.response.headers.nextPage? = some "https://api.github.com/p2" := by decide
      have ht : page.response.headers.nextPage? = some p.target :=
        Reply.answer.inj hp ▸ p.holds.links
      exact Option.some.inj (hn.symm.trans ht) ▸ by decide
    · exact absurd (congrArg Response.status (Reply.answer.inj hp)) p.holds.content
  · have hn : r.isRedirect = false := by
      rcases List.mem_pair.1 hr with hr | hr
      · cases hr
        rfl
      · cases hr
        rfl
    rw [target?_of_not_isRedirect hn] at ht
    cases ht

/-- A page may link anywhere, and the token goes there. And where the base has no host, the first
step of the path is taken for one. -/
theorem collect_unconfined :
    let c : Client := ⟨"https://api.github.com", some "t"⟩
    let nowhere : Client := ⟨"http://\\", some "t"⟩
    let repository : Repository := ⟨"o", "r", by decide, by decide⟩
    let page : SentPage := ⟨[⟨"mona", 2, none⟩], [⟨.next, "https://example.net/p2"⟩]⟩
    let replies := [.answer page.response, .hangUp]
    make "https://api.github.com" (some "t") = .ok c ∧ make "http://\\" (some "t") = .ok nowhere ∧
    (collect c.directory repository .listed (.start (.server replies))).2.requests =
      [c.request "https://api.github.com/repos/o/r/contributors?per_page=100",
        c.request "https://example.net/p2"] ∧
    ("authorization", "Bearer t") ∈ c.headers ∧
    siteOf? "https://example.net/p2" ≠ siteOf? "https://api.github.com" ∧
    (nowhere.profile "mona" (.start (.server []))).2.requests =
      [nowhere.request "http://\\/users/mona"] ∧
    siteOf? "http://\\" = none ∧
    siteOf? "http://\\/users/mona" = some ⟨"http", [], some "users".toList, none⟩ := by
  intro c nowhere repository page replies
  refine ⟨by decide, by decide, ?_, by decide, by decide, by decide, by decide, by decide⟩
  have hp := page.in_response.holds (by decide) (by decide)
  have hw : IsWebUrl (c.listingUrl "o" "r") := by decide
  let v : Visit := .direct hw (r := page.response) rfl
  let linked : LinkedPage := ⟨v, page.entries, "https://example.net/p2", hp⟩
  have ht : IsWebUrl "https://example.net/p2" := by decide
  have hd : Detour.Follows "https://example.net/p2" [] := ⟨ht, trivial, Nat.zero_le _⟩
  have hl : Leads (c.listingUrl "o" "r") [linked] "https://example.net/p2" := rfl
  have hb : Breaks "https://example.net/p2" 0 (upcoming [.hangUp]) (.request .unsent) := .hangUp
  have hs : c.directory.list "o" "r" (.start (.server replies)) = _ :=
    c.listFrom_broken [] [] hl hd hb
  rw [collect, hs]
  rfl

end CreditRoll.Github.Client
