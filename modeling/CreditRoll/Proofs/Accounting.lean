import CreditRoll.Proofs.Lookup
import Mathlib.Algebra.Ring.Nat

namespace CreditRoll

namespace Event

def isListing : Event → Bool
  | get _ | page _ _ => true
  | _ => false

def isLookup : Event → Bool
  | get _ | duplicateSkipped _ | resolved _ => true
  | _ => false

def get? : Event → Option String
  | get url => some url
  | _ => none

def pageCount? : Event → Option Nat
  | page count _ => some count
  | _ => none

def listedCount? : Event → Option Nat
  | listed _ count => some count
  | _ => none

def skipped? : Event → Option String
  | duplicateSkipped login => some login
  | _ => none

def resolved? : Event → Option Credit
  | resolved credit => some credit
  | _ => none

def settled? : Event → Option String
  | duplicateSkipped login => some login
  | resolved credit => some credit.login
  | _ => none

theorem length_settled (steps : List Event) :
    (steps.filterMap settled?).length =
      (steps.filterMap skipped?).length + (steps.filterMap resolved?).length := by
  induction steps with
  | nil => rfl
  | cons step steps ih =>
    cases step <;>
      simp only [List.filterMap_cons, settled?, skipped?, resolved?, List.length_cons] <;> omega

theorem filterMap_of_isListing {steps : List Event} (h : ∀ step ∈ steps, step.isListing = true) :
    steps.filterMap settled? = [] ∧ steps.filterMap resolved? = [] ∧
      steps.filterMap listedCount? = [] := by
  simp only [List.filterMap_eq_nil_iff]
  refine ⟨?_, ?_, ?_⟩
  all_goals
    intro step hm
    have hk := h step hm
    cases step <;> first | rfl | cases hk

theorem filterMap_of_isLookup {steps : List Event} (h : ∀ step ∈ steps, step.isLookup = true) :
    steps.filterMap pageCount? = [] ∧ steps.filterMap listedCount? = [] := by
  simp only [List.filterMap_eq_nil_iff]
  refine ⟨?_, ?_⟩
  all_goals
    intro step hm
    have hk := h step hm
    cases step <;> first | rfl | cases hk

end Event

namespace Github

open Collection Http Event Url

/-- The steps of looking up entries in turn: one that lists a login again is skipped, and every
other one is resolved after its profile has been asked for. -/
inductive Settles (c : Client) : List String → List Entry → List Event → List Credit → Prop
  | nil {seen : List String} : Settles c seen [] [] []
  | skip {seen : List String} {entry : Entry} {entries : List Entry} {steps : List Event}
      {credits : List Credit} (hm : entry.login ∈ seen) (h : Settles c seen entries steps credits) :
      Settles c seen (entry :: entries) (.duplicateSkipped entry.login :: steps) credits
  | resolve {seen : List String} {entry : Entry} {entries : List Entry} {steps : List Event}
      {credits : List Credit} (hm : entry.login ∉ seen) (p : Profile)
      (h : Settles c (entry.login :: seen) entries steps credits) :
      Settles c seen (entry :: entries)
        (.get (c.profileUrl entry.login) :: .resolved (.ofProfile entry p) :: steps)
        (.ofProfile entry p :: credits)

namespace Settles

variable {c : Client} {seen : List String} {entries : List Entry} {steps : List Event}
  {credits : List Credit}

theorem filterMap_settled (h : Settles c seen entries steps credits) :
    steps.filterMap settled? = entries.map (·.login) := by
  induction h with
  | nil => rfl
  | skip _ _ ih => simp [settled?, ih]
  | resolve _ _ _ ih => simp [List.filterMap_cons, settled?, ih, Credit.ofProfile]

theorem filterMap_resolved (h : Settles c seen entries steps credits) :
    steps.filterMap resolved? = credits := by
  induction h with
  | nil => rfl
  | skip _ _ ih => simp [List.filterMap_cons, resolved?, ih]
  | resolve _ _ _ ih => simp [List.filterMap_cons, resolved?, ih]

theorem filterMap_get (h : Settles c seen entries steps credits) :
    steps.filterMap get? = (fresh seen entries).map (c.profileUrl ·.login) := by
  induction h with
  | nil => rfl
  | skip hm _ ih => simp [List.filterMap_cons, get?, fresh, hm, ih]
  | resolve hm _ _ ih => simp [List.filterMap_cons, get?, fresh, hm, ih]

theorem isLookup (h : Settles c seen entries steps credits) :
    ∀ step ∈ steps, step.isLookup = true := by
  induction h with
  | nil => simp
  | skip _ _ ih => simpa [Event.isLookup] using ih
  | resolve _ _ _ ih => simpa [Event.isLookup] using ih

end Settles

section Pages

variable [Idna] [Library] (pages : List LinkedPage)

theorem pageSteps_get : (pageSteps pages).filterMap get? = pages.map (·.url) := by
  induction pages with
  | nil => rfl
  | cons p pages ih => exact congrArg (p.url :: ·) ih

theorem pageSteps_pageCount :
    ((pageSteps pages).filterMap pageCount?).sum = (pages.flatMap (·.entries)).length := by
  induction pages with
  | nil => rfl
  | cons p pages ih =>
    have hs : pageSteps (p :: pages) =
        .get p.url :: .page p.entries.length true :: pageSteps pages := rfl
    simp [hs, List.filterMap_cons, pageCount?, ih]

theorem pageSteps_isListing : ∀ step ∈ pageSteps pages, step.isListing = true := by
  simp only [pageSteps, List.mem_flatMap, List.mem_cons, List.not_mem_nil, or_false]
  rintro _ ⟨p, -, rfl | rfl⟩ <;> rfl

def listingSteps (last : Visit) (more : List Entry) : List Event :=
  pageSteps pages ++ lastSteps last.url last.answer more

end Pages

section LastPage

variable {url : String} {last : Response} {more : List Entry}

theorem lastSteps_get : (lastSteps url last more).filterMap get? = [url] := by
  unfold lastSteps
  split <;> rfl

theorem lastSteps_pageCount (h : Completes last more) :
    ((lastSteps url last more).filterMap pageCount?).sum = more.length := by
  cases h with
  | empty h => rw [lastSteps, if_pos h]; rfl
  | page h => rw [lastSteps, if_neg h.content]; rfl

theorem lastSteps_isListing : ∀ step ∈ lastSteps url last more, step.isListing = true := by
  unfold lastSteps
  split <;> simp [Event.isListing]

end LastPage

section Listings

variable [Idna] [Library] (pages : List LinkedPage) {last : Visit} {more : List Entry}

theorem listingSteps_get :
    (listingSteps pages last more).filterMap get? = pages.map (·.url) ++ [last.url] := by
  rw [listingSteps, List.filterMap_append, pageSteps_get, lastSteps_get]

theorem listingSteps_pageCount (h : Completes last.answer more) :
    ((listingSteps pages last more).filterMap pageCount?).sum =
      (pages.flatMap (·.entries) ++ more).length := by
  rw [listingSteps, List.filterMap_append, List.sum_append, pageSteps_pageCount,
    lastSteps_pageCount h, List.length_append]

theorem listingSteps_isListing : ∀ step ∈ listingSteps pages last more, step.isListing = true :=
  List.forall_mem_append.2 ⟨pageSteps_isListing pages, lastSteps_isListing⟩

end Listings

/-- The steps before and after a repository is found to list `entries`: they have been read page by
page, and the first ones of them are settled in turn. -/
structure Accounts (entries : List Entry) (before after : List Event) : Prop where
  listing : ∀ step ∈ before, step.isListing = true
  lookups : ∀ step ∈ after, step.isLookup = true
  pages : (before.filterMap pageCount?).sum = entries.length
  settled : after.filterMap settled? <+: entries.map (·.login)

def Covered (steps : List Event) : Prop :=
  ∀ k, ((steps.take k).filterMap skipped?).length + ((steps.take k).filterMap resolved?).length ≤
    ((steps.take k).filterMap listedCount?).sum

theorem covered_of_isListing {steps : List Event} (h : ∀ step ∈ steps, step.isListing = true) :
    Covered steps := by
  intro k
  have ht : ∀ step ∈ steps.take k, step.isListing = true :=
    fun step hm ↦ h step (List.mem_of_mem_take hm)
  rw [← length_settled, (filterMap_of_isListing ht).1]
  exact Nat.zero_le _

namespace Accounts

variable {entries : List Entry} {before after : List Event} (h : Accounts entries before after)
  (path : String)

include h

theorem covered : Covered (before ++ .listed path entries.length :: after) := by
  intro k
  have ht : ∀ step ∈ before.take k, step.isListing = true :=
    fun step hm ↦ h.listing step (List.mem_of_mem_take hm)
  obtain ⟨hsettled, -, hlisted⟩ := filterMap_of_isListing ht
  rw [← length_settled, List.take_append, List.filterMap_append, List.filterMap_append, hsettled,
    hlisted, List.nil_append, List.nil_append]
  cases k - before.length with
  | zero => exact Nat.le_refl _
  | succ m =>
    have hs : ((after.take m).filterMap settled?).length ≤ entries.length := by
      have hl := ((List.take_sublist m after).filterMap settled?).length_le
      have hp := h.settled.length_le
      rw [List.length_map] at hp
      exact Nat.le_trans hl hp
    simp only [List.take_succ_cons, List.filterMap_cons, settled?, listedCount?, List.sum_cons]
    exact Nat.le_trans hs (Nat.le_add_right _ _)

theorem listed_once :
    (before ++ .listed path entries.length :: after).filterMap listedCount? = [entries.length] := by
  obtain ⟨-, -, hb⟩ := filterMap_of_isListing h.listing
  obtain ⟨-, ha⟩ := filterMap_of_isLookup h.lookups
  rw [List.filterMap_append, List.filterMap_cons, hb, ha]
  rfl

theorem sum_pages :
    ((before ++ .listed path entries.length :: after).filterMap pageCount?).sum =
      entries.length := by
  obtain ⟨ha, -⟩ := filterMap_of_isLookup h.lookups
  rw [List.filterMap_append, List.filterMap_cons, ha]
  simpa only [pageCount?, List.append_nil] using h.pages

theorem settled_after :
    (before ++ .listed path entries.length :: after).filterMap settled? =
      after.filterMap settled? := by
  rw [List.filterMap_append, (filterMap_of_isListing h.listing).1]
  rfl

theorem resolved_after :
    (before ++ .listed path entries.length :: after).filterMap resolved? =
      after.filterMap resolved? := by
  rw [List.filterMap_append, (filterMap_of_isListing h.listing).2.1]
  rfl

/-- One more profile may be asked for, of which nothing comes. -/
theorem ask (url : String) : Accounts entries before (after ++ [.get url]) where
  listing := h.listing
  lookups := List.forall_mem_append.2 ⟨h.lookups, by simp [Event.isLookup]⟩
  pages := h.pages
  settled := by
    have hn : List.filterMap settled? [.get url] = [] := rfl
    rw [List.filterMap_append, hn, List.append_nil]
    exact h.settled

end Accounts

/-- A script that begins with the replies of visits to the addresses that the steps ask for, each of
which comes to a success. -/
structure Retraces [Idna] [Library] (script : List Reply) (steps : List Event)
    (visits : List Visit) (rest : List Reply) : Prop where
  script : script = visits.flatMap (·.replies) ++ rest
  gets : steps.filterMap get? = visits.map (·.url)
  succeed : ∀ v ∈ visits, v.answer.isSuccess = true

theorem Retraces.cons [Idna] [Library] {rest more : List Reply} {steps : List Event} {v : Visit}
    {visits : List Visit} (h : Retraces rest steps visits more) (hv : v.answer.isSuccess = true)
    (credit : Credit) :
    Retraces (v.replies ++ rest) (.get v.url :: .resolved credit :: steps) (v :: visits) more where
  script := by rw [List.flatMap_cons, List.append_assoc, ← h.script]
  gets := congrArg (v.url :: ·) h.gets
  succeed := List.forall_mem_cons.2 ⟨hv, h.succeed⟩

namespace Client

section Accounting

variable [Idna] [Library] (c : Client)

def synced (visits : List Visit) (rest : List Reply) (steps : List Event) : Session :=
  ⟨.server rest, visits.flatMap c.sends, steps⟩

def Asks (url : String) (rest : List Reply) (s s' : Session) : Prop :=
  s'.trace = s.trace ++ [.get url] ∧
    s'.requests = s.requests ++ if IsWebUrl url then c.asks url rest else []

variable (visits : List Visit) (rest : List Reply) (steps : List Event)

theorem get_asks (url : String) :
    c.Asks url rest (c.synced visits rest steps) (c.get url (c.synced visits rest steps)).2 := by
  cases hf : addressFault? url with
  | some fault =>
    have hw : ¬ IsWebUrl url := by simp [IsWebUrl, hf]
    rw [get_fault c hf, Asks, if_neg hw, List.append_nil]
    exact ⟨rfl, rfl⟩
  | none =>
    have hw : IsWebUrl url := hf
    rw [synced, get_server c hw, Asks, if_pos hw]
    exact ⟨rfl, rfl⟩

variable {visits : List Visit} {rest : List Reply} {steps : List Event} {e : Error} {s : Session}

theorem page_asks {url : String} (h : c.page url (c.synced visits rest steps) = (.error e, s)) :
    c.Asks url rest (c.synced visits rest steps) s := by
  have ha := c.get_asks visits rest steps url
  rcases c.page_error h with hg | ⟨-, r, hg⟩
  · rwa [hg] at ha
  · rwa [hg] at ha

theorem profile_asks {login : String}
    (h : c.profile login (c.synced visits rest steps) = (.error e, s)) :
    c.Asks (c.profileUrl login) rest (c.synced visits rest steps) s := by
  have ha := c.get_asks visits rest steps (c.profileUrl login)
  rcases c.profile_error h with hg | ⟨-, r, hg⟩
  · rwa [hg] at ha
  · rwa [hg] at ha

/-- A listing comes whole, or one of its pages cannot be had. -/
theorem listFrom_synced (url : String) (replies : List Reply) :
    (∃ pages last more rest,
      replies = (pages.map (·.toVisit) ++ [last]).flatMap (·.replies) ++ rest ∧
      Leads url pages last.url ∧ Completes last.answer more ∧
      c.listFrom url (.start (.server replies)) =
        (.ok (pages.flatMap (·.entries) ++ more),
          c.synced (pages.map (·.toVisit) ++ [last]) rest (listingSteps pages last more))) ∨
    ∃ pages last rest e s, replies = (pages.map (·.toVisit)).flatMap (·.replies) ++ rest ∧
      Leads url pages last ∧
      c.page last (c.synced (pages.map (·.toVisit)) rest (pageSteps pages)) = (.error e, s) ∧
      c.listFrom url (.start (.server replies)) = (.error e, s) := by
  obtain ⟨pages, rest, last, rfl, hl, he⟩ := exists_pages url replies
  have hm : ∀ {α : Type} (f : Visit → List α),
      (pages.map (·.toVisit)).flatMap f = pages.flatMap (f ·.toVisit) :=
    fun _ ↦ List.flatMap_map ..
  have herror {e : Error} {s : Session}
      (h : c.page last (c.synced (pages.map (·.toVisit)) rest (pageSteps pages)) = (.error e, s)) :
      c.listFrom url (.start (.server (pages.flatMap (·.replies) ++ rest))) = (.error e, s) := by
    have hs := listFrom_error c h
    rw [synced, hm] at hs
    refine (c.listFrom_pages [] [] hl rest).trans ?_
    simp only [List.nil_append, hs]
    rfl
  cases he with
  | @fault fault hf =>
    have hpage : c.page last (c.synced (pages.map (·.toVisit)) rest (pageSteps pages)) =
        (.error (.request fault),
          (c.synced (pages.map (·.toVisit)) rest (pageSteps pages)).note (.get last)) := by
      simp only [page, get_fault c hf]
    exact .inr ⟨pages, last, rest, _, _, by rw [hm], hl, hpage, herror hpage⟩
  | breaks hd hr hb =>
    subst hr
    have hpage := c.page_of_breaks ((pages.map (·.toVisit)).flatMap c.sends) (pageSteps pages) hd hb
    exact .inr ⟨pages, last, _, _, _, by rw [hm], hl, hpage, herror hpage⟩
  | @completes v more entries hv hr h =>
    subst hv hr
    refine .inl ⟨pages, v, entries, more, ?_, hl, h, ?_⟩
    · simp [hm]
    · refine (c.listFrom_whole_steps [] [] hl h more).trans ?_
      simp [synced, listingSteps, List.flatMap_map]

theorem profile_synced (login : String) (visits : List Visit) (rest : List Reply)
    (steps : List Event) :
    (∃ p v more, v.url = c.profileUrl login ∧ rest = v.replies ++ more ∧
      v.answer.isSuccess = true ∧ c.profile login (c.synced visits rest steps) =
        (.ok p, c.synced (visits ++ [v]) more (steps ++ [.get v.url]))) ∨
    ∃ e s, c.profile login (c.synced visits rest steps) = (.error e, s) := by
  cases hf : addressFault? (c.profileUrl login) with
  | some fault =>
    refine .inr ⟨.request fault, (c.synced visits rest steps).note (.get (c.profileUrl login)), ?_⟩
    simp only [profile, get_fault c hf]
  | none =>
    have hp := c.profile_server hf rest (visits.flatMap c.sends) steps
    cases ho : profileHeard (c.profileUrl login) rest with
    | error e => exact .inr ⟨e, _, by rw [synced, hp, ho]⟩
    | ok p =>
      obtain ⟨v, more, hv, rfl, hh⟩ := (profileHeard_ok_iff hf).1 ho
      refine .inl ⟨p, v, more, hv, rfl, hh.success, ?_⟩
      rw [synced, hp, ho, ← hv, v.left_eq, v.asks_eq, synced, List.flatMap_append,
        List.flatMap_singleton]

variable {seen : List String} {entry : Entry} {told : List Event}

theorem resolve_skip (hm : entry.login ∈ seen) (entries : List Entry) :
    resolve c.directory seen (entry :: entries) (c.synced visits rest told) =
      resolve c.directory seen entries
        (c.synced visits rest (told ++ [.duplicateSkipped entry.login])) := by
  rw [resolve, if_pos (List.contains_iff_mem.2 hm)]
  rfl

theorem resolve_stop (hm : entry.login ∉ seen) {e : Error} {s : Session}
    (h : c.profile entry.login (c.synced visits rest told) = (.error e, s))
    (entries : List Entry) :
    resolve c.directory seen (entry :: entries) (c.synced visits rest told) = (.error e, s) := by
  have hc : ¬ seen.contains entry.login = true := by simpa using hm
  simp only [resolve, if_neg hc, directory, h]

theorem resolve_next (hm : entry.login ∉ seen) {p : Profile} {v : Visit} {more : List Reply}
    (h : c.profile entry.login (c.synced visits rest told) =
      (.ok p, c.synced (visits ++ [v]) more (told ++ [.get v.url]))) (entries : List Entry) :
    resolve c.directory seen (entry :: entries) (c.synced visits rest told) =
      let credit := Credit.ofProfile entry p
      let out := resolve c.directory (entry.login :: seen) entries
        (c.synced (visits ++ [v]) more (told ++ [.get v.url, .resolved credit]))
      (out.1.map (credit :: ·), out.2) := by
  have hc : ¬ seen.contains entry.login = true := by simpa using hm
  have hn : (c.synced (visits ++ [v]) more (told ++ [.get v.url])).note
      (.resolved (.ofProfile entry p)) =
        c.synced (visits ++ [v]) more
          (told ++ [.get v.url, .resolved (.ofProfile entry p)]) := by
    rw [synced, Session.note, List.append_assoc]
    rfl
  simp only [resolve, if_neg hc, directory, h, hn]

/-- Looking up settles all entries, or those before the first one whose profile cannot be had. -/
theorem resolve_synced (seen : List String) (entries : List Entry) (visits : List Visit)
    (rest : List Reply) (told : List Event) :
    (∃ steps credits found more, Settles c seen entries steps credits ∧
      Retraces rest steps found more ∧
      resolve c.directory seen entries (c.synced visits rest told) =
        (.ok credits, c.synced (visits ++ found) more (told ++ steps))) ∨
    ∃ done entry others steps credits found more e s,
      entries = done ++ entry :: others ∧ Settles c seen done steps credits ∧
      Retraces rest steps found more ∧
      c.profile entry.login (c.synced (visits ++ found) more (told ++ steps)) = (.error e, s) ∧
      resolve c.directory seen entries (c.synced visits rest told) = (.error e, s) := by
  induction entries generalizing seen visits rest told with
  | nil =>
    refine .inl ⟨[], [], [], rest, .nil, ⟨rfl, rfl, List.forall_mem_nil _⟩, ?_⟩
    rw [resolve, List.append_nil, List.append_nil]
  | cons entry entries ih =>
    by_cases hm : entry.login ∈ seen
    · rw [c.resolve_skip hm]
      rcases ih seen visits rest (told ++ [.duplicateSkipped entry.login]) with
        ⟨steps, credits, found, more, hs, ht, h⟩ |
        ⟨done, next, others, steps, credits, found, more, e, s, rfl, hs, ht, hp, h⟩
      · refine .inl ⟨_, credits, found, more, .skip hm hs,
          ⟨ht.script, ht.gets, ht.succeed⟩, ?_⟩
        rw [h, ← List.append_cons]
      · refine .inr ⟨entry :: done, next, others, _, credits, found, more, e, s, rfl, .skip hm hs,
          ⟨ht.script, ht.gets, ht.succeed⟩, ?_, h⟩
        rwa [List.append_cons]
    · rcases c.profile_synced entry.login visits rest told with
        ⟨p, v, more, hv, rfl, hv', hp⟩ | ⟨e, s, hp⟩
      · rw [c.resolve_next hm hp]
        rcases ih (entry.login :: seen) (visits ++ [v]) more
            (told ++ [.get v.url, .resolved (.ofProfile entry p)]) with
          ⟨steps, credits, found, more', hs, ht, h⟩ |
          ⟨done, next, others, steps, credits, found, more', e, s, rfl, hs, ht, hp, h⟩
        · have hr := Settles.resolve hm p hs
          rw [← hv] at hr
          refine .inl ⟨_, _, v :: found, more', hr, ht.cons hv' _, ?_⟩
          simp only [h, Except.map, List.append_assoc, List.cons_append, List.nil_append]
        · have hr := Settles.resolve hm p hs
          rw [← hv] at hr
          refine .inr ⟨entry :: done, next, others, _, _, v :: found, more', e, s, rfl, hr,
            ht.cons hv' _, ?_, ?_⟩
          · simpa only [List.append_assoc, List.cons_append, List.nil_append] using hp
          · simp only [h, Except.map]
      · refine .inr ⟨[], entry, entries, [], [], [], rest, e, s, rfl, .nil,
          ⟨rfl, rfl, List.forall_mem_nil _⟩, ?_, c.resolve_stop hm hp entries⟩
        rwa [List.append_nil, List.append_nil]

inductive Course (repository : Repository) (order : Order) (replies : List Reply) :
    Except Error (List Credit) × Session → Prop
  | whole {pages : List LinkedPage} {last : Visit} {more : List Entry} {found : List Visit}
      {rest : List Reply} {steps : List Event} {credits : List Credit}
      (hl : Leads (c.listingUrl repository.owner repository.name) pages last.url)
      (hc : Completes last.answer more)
      (hs : Settles c [] (pages.flatMap (·.entries) ++ more) steps credits)
      (ht : Retraces replies (listingSteps pages last more ++
          .listed repository.path (pages.flatMap (·.entries) ++ more).length :: steps)
        (pages.map (·.toVisit) ++ [last] ++ found) rest) :
      Course repository order replies (.ok (order.arrange credits),
        c.synced (pages.map (·.toVisit) ++ [last] ++ found) rest (listingSteps pages last more ++
          .listed repository.path (pages.flatMap (·.entries) ++ more).length :: steps))
  | unlisted {pages : List LinkedPage} {last : String} {rest : List Reply} {e : Error} {s : Session}
      (hl : Leads (c.listingUrl repository.owner repository.name) pages last)
      (ht : Retraces replies (pageSteps pages) (pages.map (·.toVisit)) rest)
      (hp : c.page last (c.synced (pages.map (·.toVisit)) rest (pageSteps pages)) = (.error e, s)) :
      Course repository order replies (.error e, s)
  | unresolved {pages : List LinkedPage} {last : Visit} {more done others : List Entry}
      {entry : Entry} {found : List Visit} {rest : List Reply} {steps : List Event}
      {credits : List Credit} {e : Error} {s : Session}
      (hl : Leads (c.listingUrl repository.owner repository.name) pages last.url)
      (hc : Completes last.answer more)
      (hd : pages.flatMap (·.entries) ++ more = done ++ entry :: others)
      (hs : Settles c [] done steps credits)
      (ht : Retraces replies (listingSteps pages last more ++
          .listed repository.path (pages.flatMap (·.entries) ++ more).length :: steps)
        (pages.map (·.toVisit) ++ [last] ++ found) rest)
      (hp : c.profile entry.login (c.synced (pages.map (·.toVisit) ++ [last] ++ found) rest
        (listingSteps pages last more ++
          .listed repository.path (pages.flatMap (·.entries) ++ more).length :: steps)) =
          (.error e, s)) :
      Course repository order replies (.error e, s)

theorem forall_mem_pages (pages : List LinkedPage) :
    ∀ v ∈ pages.map (·.toVisit), v.answer.isSuccess = true :=
  List.forall_mem_map.2 fun p _ ↦ p.holds.success

theorem retraces_listing {pages : List LinkedPage} {last : Visit} {more : List Entry}
    {found : List Visit} {replies rest rest' : List Reply} {steps : List Event}
    (hr : replies = (pages.map (·.toVisit) ++ [last]).flatMap (·.replies) ++ rest)
    (hc : Completes last.answer more) (ht : Retraces rest steps found rest') (path : String)
    (count : Nat) :
    Retraces replies (listingSteps pages last more ++ .listed path count :: steps)
      (pages.map (·.toVisit) ++ [last] ++ found) rest' where
  script := by
    rw [List.flatMap_append, List.append_assoc, ← ht.script, hr]
  gets := by
    have hn : get? (.listed path count) = none := rfl
    rw [List.filterMap_append, List.filterMap_cons_none hn, ht.gets, listingSteps_get]
    simp
  succeed := List.forall_mem_append.2 ⟨List.forall_mem_append.2
    ⟨forall_mem_pages pages, List.forall_mem_singleton.2 hc.isSuccess⟩, ht.succeed⟩

theorem collect_course (repository : Repository) (order : Order) (replies : List Reply) :
    c.Course repository order replies
      (collect c.directory repository order (.start (.server replies))) := by
  rcases c.listFrom_synced (c.listingUrl repository.owner repository.name) replies with
    ⟨pages, last, more, rest, hr, hl, hc, h⟩ | ⟨pages, last, rest, e, s, hr, hl, hp, h⟩
  · have hs : c.directory.list repository.owner repository.name
      (.start (.server replies)) = _ := h
    have hn : c.directory.note (.listed repository.path (pages.flatMap (·.entries) ++ more).length)
        (c.synced (pages.map (·.toVisit) ++ [last]) rest (listingSteps pages last more)) =
          c.synced (pages.map (·.toVisit) ++ [last]) rest (listingSteps pages last more ++
            [.listed repository.path (pages.flatMap (·.entries) ++ more).length]) := rfl
    simp only [collect, hs, hn]
    rcases c.resolve_synced [] (pages.flatMap (·.entries) ++ more)
        (pages.map (·.toVisit) ++ [last]) rest (listingSteps pages last more ++
          [.listed repository.path (pages.flatMap (·.entries) ++ more).length]) with
      ⟨steps, credits, found, rest', hs, ht, h⟩ |
      ⟨done, entry, others, steps, credits, found, rest', e, s, hd, hs, ht, hp, h⟩
    · simp only [h, List.append_assoc _ [Event.listed _ _], List.singleton_append]
      exact .whole hl hc hs (retraces_listing hr hc ht _ _)
    · rw [List.append_assoc (listingSteps pages last more)] at hp
      simp only [h]
      exact .unresolved hl hc hd hs (retraces_listing hr hc ht _ _) hp
  · have hs : c.directory.list repository.owner repository.name
      (.start (.server replies)) = _ := h
    simp only [collect, hs]
    refine .unlisted hl ⟨hr, ?_, forall_mem_pages pages⟩ hp
    rw [pageSteps_get, List.map_map]
    rfl

theorem accounts_of_settles {pages : List LinkedPage} {last : Visit}
    {more done : List Entry} {steps : List Event} {credits : List Credit}
    (hc : Completes last.answer more) (hs : Settles c [] done steps credits)
    (hd : done <+: pages.flatMap (·.entries) ++ more) :
    Accounts (pages.flatMap (·.entries) ++ more) (listingSteps pages last more) steps where
  listing := listingSteps_isListing pages
  lookups := hs.isLookup
  pages := listingSteps_pageCount pages hc
  settled := by
    rw [hs.filterMap_settled]
    exact hd.map _

/-- Every entry that a page holds is counted once as listed, and then it is either skipped or
resolved. A collection that fails ends with what it asked for last, and up to there its steps keep
the same order and account for what they settled. Each address that is asked for stands for the
requests of one visit. -/
theorem collect_accounts (repository : Repository) (order : Order) (replies : List Reply) :
    let first := c.listingUrl repository.owner repository.name
    let out := collect c.directory repository order (.start (.server replies))
    let trace := out.2.trace
    Covered trace ∧
    ((∃ pages last more found rest before after,
        let entries := pages.flatMap (·.entries) ++ more
        let visits := pages.map (·.toVisit) ++ [last] ++ found
        Leads first pages last.url ∧ Completes last.answer more ∧
        replies = visits.flatMap (·.replies) ++ rest ∧
        trace.filterMap get? = visits.map (·.url) ∧ out.2.requests = visits.flatMap c.sends ∧
        out.1 = .ok (order.arrange (trace.filterMap resolved?)) ∧
        trace = before ++ .listed repository.path entries.length :: after ∧
        Accounts entries before after ∧
        trace.filterMap listedCount? = [entries.length] ∧
        (trace.filterMap pageCount?).sum = entries.length ∧
        (trace.filterMap skipped?).length + (trace.filterMap resolved?).length = entries.length ∧
        trace.filterMap settled? = entries.map (·.login) ∧
        before.filterMap get? = trail first pages ∧
        after.filterMap get? = (firstListed entries).map (c.profileUrl ·.login)) ∨
      ∃ e steps url visits rest, out.1 = .error e ∧ trace = steps ++ [.get url] ∧
        replies = visits.flatMap (·.replies) ++ rest ∧
        steps.filterMap get? = visits.map (·.url) ∧
        out.2.requests =
          visits.flatMap c.sends ++ (if IsWebUrl url then c.asks url rest else []) ∧
        ((∃ pages, Leads first pages url ∧ visits = pages.map (·.toVisit) ∧
            (∀ step ∈ steps, step.isListing = true) ∧
            c.page url (c.synced visits rest steps) = (.error e, out.2)) ∨
          ∃ pages last more found before after login,
            let entries := pages.flatMap (·.entries) ++ more
            Leads first pages last.url ∧ Completes last.answer more ∧
            visits = pages.map (·.toVisit) ++ [last] ++ found ∧
            steps = before ++ .listed repository.path entries.length :: after ∧
            Accounts entries before after ∧ before.filterMap get? = trail first pages ∧
            url = c.profileUrl login ∧
            c.profile login (c.synced visits rest steps) = (.error e, out.2))) := by
  intro first out trace
  have h : c.Course repository order replies out := c.collect_course repository order replies
  clear_value out
  cases h with
  | @whole pages last more found rest steps credits hl hc hs ht =>
    have ha := c.accounts_of_settles hc hs (List.prefix_refl _)
    have hsettled := (ha.settled_after repository.path).trans hs.filterMap_settled
    have hresolved : trace.filterMap resolved? = credits :=
      (ha.resolved_after repository.path).trans hs.filterMap_resolved
    refine ⟨ha.covered _, .inl ⟨pages, last, more, found, rest, _, steps, hl, hc, ht.script,
      ht.gets, rfl, ?_, rfl, ha, ha.listed_once _, ha.sum_pages _, ?_, hsettled, ?_, ?_⟩⟩
    · rw [hresolved]
    · rw [← length_settled]
      exact (congrArg List.length hsettled).trans (List.length_map _)
    · rw [listingSteps_get]
      exact hl.symm
    · rw [hs.filterMap_get, firstListed_eq_fresh]
  | @unlisted pages last rest e s hl ht hp =>
    have hi := pageSteps_isListing pages
    obtain ⟨hk, hr⟩ := c.page_asks hp
    refine ⟨?_, .inr ⟨e, pageSteps pages, last, _, rest, rfl, hk, ht.script, ht.gets, hr,
      .inl ⟨pages, hl, rfl, hi, hp⟩⟩⟩
    apply covered_of_isListing
    have hk : trace = pageSteps pages ++ [.get last] := hk
    rw [hk]
    exact List.forall_mem_append.2 ⟨hi, by simp [Event.isListing]⟩
  | @unresolved pages last more done others entry found rest steps credits e s hl hc hd hs ht hp =>
    have ha := c.accounts_of_settles hc hs ⟨_, hd.symm⟩
    obtain ⟨hk, hr⟩ := c.profile_asks hp
    have hb : (listingSteps pages last more).filterMap get? = trail first pages := by
      rw [listingSteps_get]
      exact hl.symm
    refine ⟨?_, .inr ⟨e, _, _, _, rest, rfl, hk, ht.script, ht.gets, hr, .inr ⟨pages, last, more,
      found, _, steps, entry.login, hl, hc, rfl, rfl, ha, hb, rfl, hp⟩⟩⟩
    have hcover := (ha.ask (c.profileUrl entry.login)).covered repository.path
    have hk : trace = _ := hk
    simpa only [hk, synced, List.append_assoc, List.cons_append] using hcover

end Accounting

/-- One step of asking for an address can stand for two requests, or for none. -/
theorem collect_asks_again :
    let c : Client := ⟨"http://api.test", none⟩
    let repository : Repository := ⟨"o", "r", by decide, by decide⟩
    let first := "http://api.test/repos/o/r/contributors?per_page=100"
    let moved : Response := ⟨301, [("Location", "/p2")], some []⟩
    let out := collect c.directory repository .listed
      (.start (.server [.answer moved, .answer ⟨204, [], some []⟩]))
    let odd : Client := ⟨"http://\x7bx\x7d", none⟩
    let address := "http://\x7bx\x7d/repos/o/r/contributors?per_page=100"
    let nothing := collect odd.directory repository .listed (.start (.server []))
    out.1 = .ok [] ∧ out.2.trace = [.get first, .listed "o/r" 0] ∧
      out.2.requests.map (·.url) = [first, "http://api.test/p2"] ∧
      (Address.parse? address).map (·.scheme) = some "http" ∧
      nothing.2.trace = [.get address] ∧ nothing.2.requests = [] := by
  intro c repository first moved out odd address nothing
  have hl : Detour.Leads first [(moved, "http://api.test/p2")] := ⟨by decide +kernel, trivial⟩
  let v : Visit := ⟨first, _, ⟨204, [], some []⟩, ⟨by decide +kernel, hl, by decide⟩, rfl⟩
  have hv : Completes v.answer [] := .empty rfl
  have hfirst : c.listingUrl repository.owner repository.name = first := by decide +kernel
  have hs : c.directory.list repository.owner repository.name
      (.start (.server [.answer moved, .answer ⟨204, [], some []⟩])) = _ :=
    (congrArg (c.listFrom · _) hfirst).trans (c.listFrom_completes [] [] hv [])
  have ho : out = (.ok [], ⟨.server [], c.sends v, [.get first, .listed "o/r" 0]⟩) := by
    simp only [out, collect, hs]
    rfl
  have hf : addressFault? address = some (.notUri address) := by decide +kernel
  have haddress : odd.listingUrl repository.owner repository.name = address := by decide +kernel
  have hl : odd.directory.list repository.owner repository.name (.start (.server [])) =
      (.error (.request (.notUri address)), ⟨.server [], [], [.get address]⟩) :=
    odd.listFrom_stuck [] [] (leads_nil.2 haddress.symm) hf []
  have hn : nothing = (.error (.request (.notUri address)),
      ⟨.server [], [], [.get address]⟩) := by
    simp only [nothing, collect, hl]
  rw [ho, hn]
  exact ⟨rfl, rfl, rfl, by decide +kernel, rfl, rfl⟩

end Client

end Github

end CreditRoll
