import CreditRoll.Program
import CreditRoll.Proofs.Link
import CreditRoll.Proofs.Lookup
import CreditRoll.Proofs.Wire

namespace CreditRoll.Github

open Collection Http Url
open Json (IsText)

structure SentPage where
  entries : List Entry
  links : List PageLink

structure SentPage.In (p : SentPage) (r : Response) : Prop where
  status : r.status = 200
  body : ∃ text, IsText text (.array (p.entries.map Entry.json)) ∧
    r.body = some (Text.Utf8.encode text)
  links : PageLink.Fields p.links r.headers

/-- An answer about the profile of a login, which may be missing. -/
inductive TellsProfile (r : Response) : Option Profile → Prop
  | found {profile : Profile} {text : List Char} (hs : r.status = 200)
      (ht : IsText text profile.json) (hb : r.body = some (Text.Utf8.encode text)) :
      TellsProfile r (some profile)
  | missing {text : List Char} (hs : r.status = 404) (ht : IsText text (Wire.refusal "Not Found"))
      (hb : r.body = some (Text.Utf8.encode text)) : TellsProfile r none

section Serving

variable [Idna]

/-- Answers that give a listing page by page, and then a profile for each login in the order in
which the logins are first listed. -/
structure Serves (pages : List SentPage) (last : SentPage) (profiles : List (String × Profile))
    (listing : List Response) (final : Response) (answers : List Response) : Prop where
  counts : ∀ p ∈ pages ++ [last], ∀ entry ∈ p.entries, entry.contributions ≤ Text.word64Max
  targets : ∀ p ∈ pages ++ [last], ∀ l ∈ p.links, PageLink.IsTarget l.target
  leads : ∀ p ∈ pages, ∃ target, PageLink.next? p.links = some target ∧ IsWebUrl target
  ends : PageLink.next? last.links = none
  listing : List.Forall₂ SentPage.In pages listing
  final : last.In final
  answers : List.Forall₂ (fun entry r ↦ TellsProfile r (profiles.lookup entry.login))
    (firstListed ((pages ++ [last]).flatMap (·.entries))) answers

end Serving

def held (pages : List SentPage) (last : SentPage) (profiles : List (String × Profile)) :
    Roster where
  listing := .ok ((pages ++ [last]).flatMap (·.entries))
  profiles := profiles.map fun p ↦ (p.1, .ok p.2)

def SentPage.response (p : SentPage) : Response where
  status := 200
  headers := if p.links.isEmpty then [] else [("link", PageLink.value p.links)]
  body := some (Text.Utf8.encode (Json.write (.array (p.entries.map Entry.json))))

def profileResponse : Option Profile → Response
  | some profile => ⟨200, [], some (Text.Utf8.encode (Json.write profile.json))⟩
  | none => ⟨404, [], some (Text.Utf8.encode (Json.write (Wire.refusal "Not Found")))⟩

theorem SentPage.in_response (p : SentPage) : p.In p.response where
  status := rfl
  body := ⟨_, Json.isText_write (.array (List.forall_mem_map.2 fun entry _ ↦ entry.proper_json)),
    rfl⟩
  links := by
    rw [PageLink.Fields, response]
    split
    · rfl
    · have hn : Headers.sameName "link" "link" = true := by decide
      simp only [List.find?_cons, hn, Option.map_some]

theorem tellsProfile_response (profile : Option Profile) :
    TellsProfile (profileResponse profile) profile := by
  cases profile with
  | some profile => exact .found rfl (Json.isText_write profile.proper_json) rfl
  | none => exact .missing rfl (Json.isText_write (Wire.proper_refusal _)) rfl

section Serving

variable [Idna]

/-- Every listing and all profiles can be served, cut into any pages. -/
theorem serves_responses {pages : List SentPage} {last : SentPage}
    (profiles : List (String × Profile))
    (hc : ∀ p ∈ pages ++ [last], ∀ entry ∈ p.entries, entry.contributions ≤ Text.word64Max)
    (ht : ∀ p ∈ pages ++ [last], ∀ l ∈ p.links, PageLink.IsTarget l.target)
    (hn : ∀ p ∈ pages, ∃ target, PageLink.next? p.links = some target ∧ IsWebUrl target)
    (hl : PageLink.next? last.links = none) :
    Serves pages last profiles (pages.map (·.response)) last.response
      ((firstListed ((pages ++ [last]).flatMap (·.entries))).map fun entry ↦
        profileResponse (profiles.lookup entry.login)) where
  counts := hc
  targets := ht
  leads := hn
  ends := hl
  listing := List.forall₂_map_right_iff.2 (List.forall₂_same.2 fun p _ ↦ p.in_response)
  final := last.in_response
  answers := List.forall₂_map_right_iff.2
    (List.forall₂_same.2 fun entry _ ↦ tellsProfile_response (profiles.lookup entry.login))

end Serving

theorem success_of_status {r : Response} (h : r.status = 200) :
    r.isSuccess = true ∧ r.status ≠ 204 := by
  rw [Response.isSuccess, h]
  exact ⟨rfl, by decide⟩

theorem SentPage.In.holds {p : SentPage} {r : Response} (h : p.In r)
    (hc : ∀ entry ∈ p.entries, entry.contributions ≤ Text.word64Max)
    (ht : ∀ l ∈ p.links, PageLink.IsTarget l.target) :
    HoldsPage r p.entries (PageLink.next? p.links) := by
  obtain ⟨text, hx, hb⟩ := h.body
  obtain ⟨hs, hn⟩ := success_of_status h.status
  refine ⟨hs, hn, ?_, PageLink.nextPage?_of_fields h.links ht⟩
  rw [hb]
  exact Wire.page?_encode hx hc

section Linked

variable [Idna] [Library]

/-- Pages that are sent one after the other are linked, and the last link leads on. -/
theorem exists_linked {pages : List SentPage} {listing : List Response}
    (h : List.Forall₂ SentPage.In pages listing)
    (hc : ∀ p ∈ pages, ∀ entry ∈ p.entries, entry.contributions ≤ Text.word64Max)
    (ht : ∀ p ∈ pages, ∀ l ∈ p.links, PageLink.IsTarget l.target)
    (hn : ∀ p ∈ pages, ∃ target, PageLink.next? p.links = some target ∧ IsWebUrl target)
    {url : String} (hw : IsWebUrl url) :
    ∃ (linked : List LinkedPage) (last : String), Leads url linked last ∧ IsWebUrl last ∧
      linked.flatMap (·.replies) = listing.map .answer ∧
      linked.flatMap (·.entries) = pages.flatMap (·.entries) := by
  induction h generalizing url with
  | nil => exact ⟨[], url, leads_nil.2 rfl, hw, rfl, rfl⟩
  | @cons p r pages listing hp _ ih =>
    rw [List.forall_mem_cons] at hc ht hn
    obtain ⟨target, hx, hu⟩ := hn.1
    obtain ⟨linked, last, hl, hlast, hr, he⟩ := ih hc.2 ht.2 hn.2 hu
    have hh := hp.holds hc.1 ht.1
    rw [hx] at hh
    refine ⟨⟨.direct hw (isRedirect_of_isSuccess hh.success), p.entries, target, hh⟩ :: linked, last,
      leads_cons.2 ⟨rfl, hl⟩, hlast, ?_, ?_⟩
    · rw [List.flatMap_cons, hr]
      rfl
    · rw [List.flatMap_cons, he, List.flatMap_cons]

end Linked

def answerFor : Option Profile → Except Error Profile
  | some profile => .ok profile
  | none => .error (.api 404 "Not Found")

theorem profile_held (pages : List SentPage) (last : SentPage) (profiles : List (String × Profile))
    (login : String) :
    (held pages last profiles).profile login = answerFor (profiles.lookup login) := by
  have hl : (profiles.map fun p ↦ (p.1, (.ok p.2 : Except Error Profile))).lookup login =
      (profiles.lookup login).map .ok := by
    induction profiles with
    | nil => rfl
    | cons p profiles ih =>
      obtain ⟨other, profile⟩ := p
      simp only [List.map_cons, List.lookup_cons, ih]
      cases login == other <;> rfl
  rw [Roster.profile, held, hl]
  cases profiles.lookup login <;> rfl

theorem TellsProfile.isRedirect {r : Response} {profile : Option Profile}
    (h : TellsProfile r profile) : r.isRedirect = false := by
  cases h with
  | found hs => simp [Response.isRedirect, hs]
  | missing hs => simp [Response.isRedirect, hs]

namespace Client

theorem reaches_of_make [Idna] {base : String} {token : Option String} {c : Client}
    (h : make base token = .ok c) (hw : IsWebUrl (c.base ++ "/")) : c.Reaches :=
  ⟨(make_ok h).2, hw⟩

section Collecting

variable [Idna] [Library]

theorem says_of_tellsProfile {c : Client} {login : String} (hu : IsWebUrl (c.profileUrl login))
    {r : Response} {profile : Option Profile} (h : TellsProfile r profile) :
    c.Says login (.answer r) (answerFor profile) := by
  intro rest
  let v : Visit := .direct hu h.isRedirect
  have hh : heard (c.profileUrl login) (.answer r :: rest) = Status.check r.delivered :=
    v.heard_eq rest
  refine ⟨?_, v.left_eq rest⟩
  cases h with
  | found hs ht hb =>
    obtain ⟨hs, hn⟩ := success_of_status hs
    refine (profileHeard_ok_iff hu).2 ⟨v, rest, rfl, rfl, hs, hn, ?_⟩
    have hv : v.answer.body = some _ := hb
    rw [hv]
    exact Wire.profile?_encode ht
  | missing hs ht hb =>
    have hd : r.delivered = r := by simp [Response.delivered, hs]
    simp only [profileHeard, hh, hd, Status.check_missing hs hb ht, answerFor]

theorem list_serves {c : Client} {pages : List SentPage} {last : SentPage}
    {profiles : List (String × Profile)} {listing answers : List Response} {final : Response}
    (h : Serves pages last profiles listing final answers) {owner name : String}
    (hw : IsWebUrl (c.listingUrl owner name)) (rest : List Reply) :
    ∃ sent told,
      c.list owner name (.start (.server (listing.map .answer ++ .answer final :: rest))) =
        (.ok ((pages ++ [last]).flatMap (·.entries)), ⟨.server rest, sent, told⟩) := by
  have hcounts := h.counts
  have htargets := h.targets
  simp only [List.forall_mem_append, List.forall_mem_singleton] at hcounts htargets
  obtain ⟨linked, url, hl, hu, hr, he⟩ := exists_linked h.listing hcounts.1 htargets.1 h.leads hw
  have hh := h.final.holds hcounts.2 htargets.2
  rw [h.ends] at hh
  let v : Visit := .direct hu (isRedirect_of_isSuccess hh.success)
  have hv : Completes v.answer last.entries := .page hh
  have hr' : listing.map .answer ++ .answer final :: rest =
      linked.flatMap (·.replies) ++ (v.replies ++ rest) := by
    rw [hr]
    rfl
  have hs : c.listFrom (c.listingUrl owner name)
      ⟨.server (linked.flatMap (·.replies) ++ (v.replies ++ rest)), [], []⟩ = _ :=
    c.listFrom_whole_steps [] [] hl hv rest
  rw [← hr', he] at hs
  rw [List.flatMap_append, List.flatMap_singleton]
  exact ⟨_, _, hs⟩

/-- Collecting from a service that the client can reach comes to the same as collecting from memory:
the same credits, the same report or the same failure, however the listing is cut into pages,
whatever else is linked from them, and however the service spells its answers. No login may be so
long that its address is refused. -/
theorem collect_refines_roster {settings : Settings} {token : Option String} {c : Client}
    (hm : make settings.apiUrl token = .ok c) (hw : IsWebUrl (c.base ++ "/"))
    {pages : List SentPage} {last : SentPage} {profiles : List (String × Profile)}
    {listing answers : List Response} {final : Response}
    (h : Serves pages last profiles listing final answers) (rest : List Reply)
    (hl : Fits (c.listingUrl settings.repository.owner settings.repository.name))
    (hp : ∀ p ∈ pages ++ [last], ∀ entry ∈ p.entries, Fits (c.profileUrl entry.login)) :
    let s := Session.start (.server ((listing ++ final :: answers).map .answer ++ rest))
    let inMemory := (collect (held pages last profiles).directory settings.repository settings.order
      ⟨[], []⟩).1
    (collect c.directory settings.repository settings.order s).1 = inMemory ∧
    (Program.report settings token s).1 =
      match inMemory with
      | .error e => .error (.github e)
      | .ok credits => .ok (Report.text settings.style credits) := by
  intro s inMemory
  have hc := reaches_of_make hm hw
  have hu : ∀ entry ∈ firstListed ((pages ++ [last]).flatMap (·.entries)),
      IsWebUrl (c.profileUrl entry.login) := by
    intro entry he
    obtain ⟨p, hm, he⟩ := List.mem_flatMap.1 (mem_of_mem_firstListed he)
    exact hc.profileUrl (hp p hm entry he)
  have he : (collect c.directory settings.repository settings.order s).1 = inMemory := by
    obtain ⟨sent, told, hs⟩ := list_serves h (hc.listingUrl hl) (answers.map .answer ++ rest)
    have hr : s = .start (.server (listing.map .answer ++ .answer final ::
        (answers.map .answer ++ rest))) := by
      simp [s]
    rw [← hr] at hs
    have hf : List.Forall₂ (fun entry reply ↦
        c.Says entry.login reply ((held pages last profiles).profile entry.login))
        (firstListed ((pages ++ [last]).flatMap (·.entries))) (answers.map .answer) := by
      refine List.forall₂_map_right_iff.2 (List.forall₂_iff_get.2 ⟨h.answers.length_eq, ?_⟩)
      intro i hi hi'
      rw [profile_held]
      exact says_of_tellsProfile (hu _ (List.get_mem _ _)) (h.answers.get hi hi')
    exact collect_agrees c.networkView
      (answeringView (held pages last profiles).profile (held pages last profiles).listing)
      settings.order hs rfl (c.lookUp_simulates hu hf rest sent _)
  refine ⟨he, ?_⟩
  rw [Program.report, hm]
  simp only
  rcases hx : collect c.directory settings.repository settings.order s with ⟨e | credits, s'⟩
  · rw [hx] at he
    simp only [← he]
  · rw [hx] at he
    simp only [← he]

end Collecting

/-- A listing in two pages, where the second repeats a login. -/
theorem collect_refines_roster_two_pages :
    let settings : Settings :=
      ⟨⟨"o", "r", by decide, by decide⟩, .plain, .listed, "https://api.github.com/"⟩
    let first : SentPage := ⟨[⟨"mona", 2, none⟩, ⟨"hubot", 1, none⟩],
      [⟨.prev, "https://api.github.com/p0"⟩, ⟨.next, "https://api.github.com/p2"⟩]⟩
    let last : SentPage := ⟨[⟨"mona", 9, none⟩], []⟩
    let profiles := [("hubot", ⟨none, "h"⟩), ("mona", ⟨some "Mona", "m"⟩)]
    let answers := [profileResponse (profiles.lookup "mona"),
      profileResponse (profiles.lookup "hubot")]
    let s := Session.start (.server ((first.response :: last.response :: answers).map .answer))
    make settings.apiUrl none = .ok ⟨"https://api.github.com", none⟩ ∧
    IsWebUrl "https://api.github.com/" ∧
    Serves [first] last profiles [first.response] last.response answers ∧
    (Program.report settings none s).1 = .ok "* Mona\n* hubot\n" := by
  intro settings first last profiles answers s
  have hm : make settings.apiUrl none = .ok ⟨"https://api.github.com", none⟩ := by decide
  have hw : IsWebUrl "https://api.github.com/" := by decide
  have hs : Serves [first] last profiles [first.response] last.response answers := by
    refine serves_responses profiles ?_ ?_ ?_ rfl
    · decide
    · decide
    · exact List.forall_mem_singleton.2 ⟨"https://api.github.com/p2", rfl, by decide⟩
  have hf : Fits (listingUrl ⟨"https://api.github.com", none⟩ "o" "r") := by decide +kernel
  have hp : ∀ p ∈ [first] ++ [last], ∀ entry ∈ p.entries,
      Fits (profileUrl ⟨"https://api.github.com", none⟩ entry.login) := by decide +kernel
  refine ⟨hm, hw, hs, (collect_refines_roster hm hw hs [] hf hp).2.trans ?_⟩
  rfl

end Client

end CreditRoll.Github
