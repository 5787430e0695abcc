import CreditRoll.Proofs.Accounting
import CreditRoll.Proofs.Authorization
import CreditRoll.Proofs.WireFields

namespace CreditRoll

namespace Text

/-- Digits that may have a plus sign before them, and the number that they stand for. -/
inductive IsSignedCount : List Char → Nat → Prop
  | plain {s : List Char} (h : Json.Token.IsDigits s) : IsSignedCount s (Nat.ofDigitChars 10 s 0)
  | signed {s : List Char} (h : Json.Token.IsDigits s) :
      IsSignedCount ('+' :: s) (Nat.ofDigitChars 10 s 0)

theorem signedWord64?_eq_some_iff {s : List Char} {n : Nat} :
    signedWord64? s = some n ↔ IsSignedCount s n ∧ n ≤ word64Max := by
  constructor
  · intro h
    unfold signedWord64? at h
    split at h <;> obtain ⟨⟨hd, rfl⟩, hn⟩ := word64?_eq_some_iff.1 h
    · exact ⟨.signed hd, hn⟩
    · exact ⟨.plain hd, hn⟩
  · rintro ⟨hs, hn⟩
    cases hs with
    | signed hd => exact word64?_eq_some_iff.2 ⟨⟨hd, rfl⟩, hn⟩
    | plain hd =>
      have hp : ∀ s', s ≠ '+' :: s' := by
        rintro s' rfl
        have hc := hd.2 '+' List.mem_cons_self
        cases hc
      unfold signedWord64?
      split
      · exact absurd rfl (hp _)
      · exact word64?_eq_some_iff.2 ⟨⟨hd, rfl⟩, hn⟩

theorem ofDigitChars_eq_zero_iff {s : List Char} (h : ∀ c ∈ s, c.isDigit = true) (n : Nat) :
    Nat.ofDigitChars 10 s n = 0 ↔ n = 0 ∧ ∀ c ∈ s, c = '0' := by
  induction s generalizing n with
  | nil => simp [Nat.ofDigitChars]
  | cons c s ih =>
    obtain ⟨hc, hs⟩ := List.forall_mem_cons.1 h
    have hz : c.toNat - '0'.toNat = 0 ↔ c = '0' := by
      constructor
      · intro h0
        have hd : '0'.toNat ≤ c.toNat := by
          simp only [Char.isDigit, Bool.and_eq_true, decide_eq_true_eq, UInt32.le_iff_toNat_le] at hc
          exact hc.1
        have he : c.toNat = '0'.toNat := by omega
        exact Char.toNat_inj.1 he
      · intro h0
        rw [h0]
        exact Nat.sub_self _
    rw [Nat.ofDigitChars_cons, ih hs, List.forall_mem_cons, ← hz, Nat.add_eq_zero_iff, and_assoc]
    exact and_congr_left' (by omega)

/-- One zero or more, for nothing at all. -/
theorem isSignedCount_zero_iff {s : List Char} :
    IsSignedCount s 0 ↔
      ∃ k, s = List.replicate (k + 1) '0' ∨ s = '+' :: List.replicate (k + 1) '0' := by
  have hzeros {s : List Char} (hd : Json.Token.IsDigits s) (h : Nat.ofDigitChars 10 s 0 = 0) :
      ∃ k, s = List.replicate (k + 1) '0' := by
    obtain ⟨k, hk⟩ := Nat.exists_eq_succ_of_ne_zero (mt List.length_eq_zero_iff.1 hd.1)
    exact ⟨k, List.eq_replicate_iff.2 ⟨hk, ((ofDigitChars_eq_zero_iff hd.2 0).1 h).2⟩⟩
  have hdigits (k : Nat) : Json.Token.IsDigits (List.replicate (k + 1) '0') := by
    refine ⟨List.cons_ne_nil _ _, fun c hc ↦ ?_⟩
    rw [List.eq_of_mem_replicate hc]
    rfl
  have hvalue (k : Nat) : Nat.ofDigitChars 10 (List.replicate (k + 1) '0') 0 = 0 :=
    (ofDigitChars_eq_zero_iff (hdigits k).2 0).2 ⟨rfl, fun _ ↦ List.eq_of_mem_replicate⟩
  constructor
  · intro h
    generalize hn : 0 = n at h
    cases h with
    | plain hd =>
      obtain ⟨k, hk⟩ := hzeros hd hn.symm
      exact ⟨k, .inl hk⟩
    | signed hd =>
      obtain ⟨k, hk⟩ := hzeros hd hn.symm
      exact ⟨k, .inr (congrArg ('+' :: ·) hk)⟩
  · rintro ⟨k, rfl | rfl⟩
    · exact hvalue k ▸ .plain (hdigits k)
    · exact hvalue k ▸ .signed (hdigits k)

end Text

namespace Http.Headers

def First (name : String) (headers : Headers) (value : String) : Prop :=
  ∃ n before after, headers = before ++ (n, value) :: after ∧ sameName name n = true ∧
    ∀ field ∈ before, sameName name field.1 = false

/-- The first field of a name can be read, and between blanks it says `s`. -/
def Says (name : String) (headers : Headers) (s : List Char) : Prop :=
  ∃ value, First name headers value ∧ (∀ c ∈ value.toList, isReadable c = true) ∧
    s = Text.trim value.toList

theorem text?_eq_some_iff {name : String} {headers : Headers} {s : List Char} :
    headers.text? name = some s ↔ ∃ value, First name headers value ∧
      (∀ c ∈ value.toList, isReadable c = true) ∧ s = value.toList := by
  simp only [text?, bind, Option.bind_eq_some_iff, List.find?_eq_some_iff_append,
    Bool.not_eq_true', Option.guard_eq_some', List.all_eq_true, pure, Option.some.injEq]
  constructor
  · rintro ⟨⟨n, value⟩, ⟨hn, before, after, hh, hb⟩, -, hr, hs⟩
    exact ⟨value, ⟨n, before, after, hh, hn, hb⟩, hr, hs.symm⟩
  · rintro ⟨value, ⟨n, before, after, hh, hn, hb⟩, hr, hs⟩
    exact ⟨(n, value), ⟨hn, before, after, hh, hb⟩, (), hr, hs.symm⟩

theorem count?_eq_some_iff {name : String} {headers : Headers} {n : Nat} :
    headers.count? name = some n ↔
      ∃ s, Says name headers s ∧ Text.IsSignedCount s n ∧ n ≤ Text.word64Max := by
  simp only [count?, bind, Option.bind_eq_some_iff, text?_eq_some_iff,
    Text.signedWord64?_eq_some_iff]
  constructor
  · rintro ⟨_, ⟨value, hf, hr, rfl⟩, hs⟩
    exact ⟨_, ⟨value, hf, hr, rfl⟩, hs⟩
  · rintro ⟨_, ⟨value, hf, hr, rfl⟩, hs⟩
    exact ⟨_, ⟨value, hf, hr, rfl⟩, hs⟩

end Http.Headers

namespace Github

open Http Collection Url

/-- A refusal for want of quota: the status for bursts, or a refusal that says that nothing at all
remains. -/
def IsExhausted (r : Response) : Prop :=
  r.status = 429 ∨ r.status = 403 ∧ ∃ s, Headers.Says "x-ratelimit-remaining" r.headers s ∧
    ∃ k, s = List.replicate (k + 1) '0' ∨ s = '+' :: List.replicate (k + 1) '0'

inductive Classified (r : Response) : Except Error Response → Prop
  | accepted (h : 200 ≤ r.status ∧ r.status ≤ 299) : Classified r (.ok r)
  | limited (h : ¬ (200 ≤ r.status ∧ r.status ≤ 299)) (hl : IsExhausted r) {reset : Option Nat}
      (hr : ∀ n, reset = some n ↔ ∃ s, Headers.Says "x-ratelimit-reset" r.headers s ∧
        Text.IsSignedCount s n ∧ n ≤ Text.word64Max) :
      Classified r (.error (.rateLimited reset))
  | refused (h : ¬ (200 ≤ r.status ∧ r.status ≤ 299)) (hl : ¬ IsExhausted r) :
      Classified r (.error (.api r.status (Wire.errorMessage (Status.bodyText r))))

theorem isExhausted_iff {r : Response} :
    Status.isRateLimited r.status r.headers = true ↔ IsExhausted r := by
  have hz : Status.remaining? r.headers = some 0 ↔
      ∃ s, Headers.Says "x-ratelimit-remaining" r.headers s ∧
        ∃ k, s = List.replicate (k + 1) '0' ∨ s = '+' :: List.replicate (k + 1) '0' := by
    simp only [Status.remaining?, Headers.count?_eq_some_iff, Text.isSignedCount_zero_iff,
      Nat.zero_le, and_true]
  simp only [Status.isRateLimited, Bool.or_eq_true, Bool.and_eq_true, beq_iff_eq, hz, IsExhausted]

theorem isSuccess_iff {r : Response} :
    r.isSuccess = true ↔ 200 ≤ r.status ∧ r.status ≤ 299 := by
  simp only [Response.isSuccess, Bool.and_eq_true, decide_eq_true_eq]
  omega

theorem classified_check (r : Response) : Classified r (Status.check r) := by
  unfold Status.check
  split
  · next hs => exact .accepted (isSuccess_iff.1 hs)
  · next hs =>
    have hs := mt isSuccess_iff.2 hs
    split
    · next hl => exact .limited hs (isExhausted_iff.1 hl) fun n ↦ Headers.count?_eq_some_iff
    · next hl => exact .refused hs (mt isExhausted_iff.2 hl)

theorem Classified.unique {r : Response} {x y : Except Error Response} (h : Classified r x)
    (h' : Classified r y) : x = y := by
  cases h with
  | accepted hs =>
    cases h' with
    | accepted => rfl
    | limited hs' => exact absurd hs hs'
    | refused hs' => exact absurd hs hs'
  | limited hs hl hr =>
    cases h' with
    | accepted hs' => exact absurd hs' hs
    | limited _ _ hr' =>
      have he : ∀ n, _ = some n ↔ _ = some n := fun n ↦ (hr n).trans (hr' n).symm
      rw [Option.ext he]
    | refused _ hl' => exact absurd hl hl'
  | refused hs hl =>
    cases h' with
    | accepted hs' => exact absurd hs' hs
    | limited _ hl' => exact absurd hl' hl
    | refused => rfl

theorem check_eq_iff {r : Response} {x : Except Error Response} :
    Status.check r = x ↔ Classified r x := by
  constructor
  · rintro rfl
    exact classified_check r
  · exact fun h ↦ (classified_check r).unique h

def Error.isRefusal : Error → Bool
  | api _ _ | rateLimited _ => true
  | _ => false

theorem classified_of_isSuccess {r : Response} (h : r.isSuccess = true) :
    Classified r.delivered (.ok r.delivered) :=
  .accepted (isSuccess_iff.1 ((isSuccess_delivered r).trans h))

namespace Client

section Refusals

variable [Idna] [Library] (c : Client)

/-- What is asked for is refused if and only if the answer is, after the redirects. -/
theorem get_refused_iff (url : String) (visits : List Visit) (rest : List Reply)
    (steps : List Event) {e : Error} (he : e.isRefusal = true) :
    (c.get url (c.synced visits rest steps)).1 = .error e ↔
      IsWebUrl url ∧ ∃ r, arrived url rest = .ok r ∧ Classified r (.error e) := by
  cases hf : addressFault? url with
  | some fault =>
    have hw : ¬ IsWebUrl url := by simp [IsWebUrl, hf]
    rw [c.get_fault hf]
    constructor
    · intro h
      cases h
      cases he
    · exact fun h ↦ absurd h.1 hw
  | none =>
    have hw : IsWebUrl url := hf
    rw [synced, c.get_server hw, heard]
    cases arrived url rest with
    | error fault =>
      constructor
      · intro h
        cases h
        cases he
      · rintro ⟨-, r, hr, -⟩
        cases hr
    | ok r =>
      rw [outcome, check_eq_iff]
      constructor
      · exact fun h ↦ ⟨hw, r, rfl, h⟩
      · rintro ⟨-, r', hr, h⟩
        cases hr
        exact h

variable {e : Error} (he : e.isRefusal = true) (s : Session)

include he

theorem page_refused_iff (url : String) :
    (c.page url s).1 = .error e ↔ (c.get url s).1 = .error e := by
  constructor
  · intro h
    rcases c.page_error (Prod.ext h rfl) with hg | ⟨rfl, -⟩
    · rw [hg]
    · cases he
  · intro h
    have hg : c.get url s = (.error e, (c.get url s).2) := Prod.ext h rfl
    rw [page, hg]

theorem profile_refused_iff (login : String) :
    (c.profile login s).1 = .error e ↔ (c.get (c.profileUrl login) s).1 = .error e := by
  constructor
  · intro h
    rcases c.profile_error (Prod.ext h rfl) with hg | ⟨rfl, -⟩
    · rw [hg]
    · cases he
  · intro h
    have hg : c.get (c.profileUrl login) s = (.error e, (c.get (c.profileUrl login) s).2) :=
      Prod.ext h rfl
    rw [profile, hg]

end Refusals

end Client

section Hearing

variable [Idna] [Library]

/-- How a script is heard to which addresses are put in turn. Every answer but the last one is
accepted, and the last one alone decides whether a refusal comes of it all. -/
structure Hears (replies : List Reply) (asked : List String) (refusal : Error → Prop)
    (visits : List Visit) (rest : List Reply) : Prop where
  script : replies = visits.flatMap (·.replies) ++ rest
  accepted : ∀ v ∈ visits, Classified v.answer.delivered (.ok v.answer.delivered)
  refused : (asked = visits.map (·.url) ∧ ∀ e, e.isRefusal = true → ¬ refusal e) ∨
    ∃ url, asked = visits.map (·.url) ++ [url] ∧ ∀ e, e.isRefusal = true →
      (refusal e ↔ IsWebUrl url ∧ ∃ r, arrived url rest = .ok r ∧ Classified r (.error e))

theorem hears_nothing (replies : List Reply) {refusal : Error → Prop}
    (h : ∀ e, e.isRefusal = true → ¬ refusal e) : Hears replies [] refusal [] replies :=
  ⟨rfl, List.forall_mem_nil _, .inl ⟨rfl, h⟩⟩

theorem Hears.of_iff {replies rest : List Reply} {asked : List String} {refusal : Error → Prop}
    {visits : List Visit} (h : Hears replies asked refusal visits rest) {refusal' : Error → Prop}
    (hr : ∀ e, refusal' e ↔ refusal e) : Hears replies asked refusal' visits rest := by
  obtain rfl : refusal' = refusal := funext fun e ↦ propext (hr e)
  exact h

namespace Client

theorem collect_hears (c : Client) (repository : Repository) (order : Order)
    (replies : List Reply) :
    let out := collect c.directory repository order (.start (.server replies))
    ∃ visits rest,
      Hears replies (out.2.trace.filterMap Event.get?) (fun e ↦ out.1 = .error e) visits rest := by
  intro out
  have h : c.Course repository order replies out := c.collect_course repository order replies
  clear_value out
  cases h with
  | @whole pages last more found rest steps credits _ _ _ ht =>
    refine ⟨_, rest, ht.script, fun v hv ↦ classified_of_isSuccess (ht.succeed v hv),
      .inl ⟨ht.gets, fun e _ h ↦ ?_⟩⟩
    cases h
  | @unlisted pages last rest e s _ ht hp =>
    refine ⟨_, rest, ht.script, fun v hv ↦ classified_of_isSuccess (ht.succeed v hv),
      .inr ⟨last, ?_, fun e' he ↦ ?_⟩⟩
    · rw [(c.page_asks hp).1, List.filterMap_append, synced, ht.gets]
      rfl
    · rw [← c.get_refused_iff last _ rest (pageSteps pages) he, ← c.page_refused_iff he, hp]
      simp only [Except.error.injEq]
  | @unresolved pages last more done others entry found rest steps credits e s _ _ _ _ ht hp =>
    refine ⟨_, rest, ht.script, fun v hv ↦ classified_of_isSuccess (ht.succeed v hv),
      .inr ⟨c.profileUrl entry.login, ?_, fun e' he ↦ ?_⟩⟩
    · rw [(c.profile_asks hp).1, List.filterMap_append, synced, ht.gets]
      rfl
    · rw [← c.get_refused_iff _ _ rest _ he, ← c.profile_refused_iff he, hp]
      simp only [Except.error.injEq]

end Client

end Hearing

end Github

namespace Program

open Github Http Url
open CommandLine (Arguments)

section Runs

variable [Idna] [Library]

theorem report_hears (settings : Settings) (token : Option String) (replies : List Reply) :
    let out := report settings token (.start (.server replies))
    ∃ visits rest, Hears replies (out.2.trace.filterMap Event.get?)
      (fun e ↦ out.1 = .error (.github e)) visits rest := by
  intro out
  cases hm : Client.make settings.apiUrl token with
  | error e =>
    have ho : out = (.error (.github e), .start (.server replies)) := by
      simp only [out, report, hm]
    have he : e.isRefusal = false := by
      simp only [Client.make] at hm
      split at hm
      · cases hm
        rfl
      · split at hm <;> cases hm
        rfl
    rw [ho]
    refine ⟨[], replies, hears_nothing replies fun e' he' h ↦ ?_⟩
    cases h
    rw [he] at he'
    cases he'
  | ok c =>
    obtain ⟨visits, rest, h⟩ := c.collect_hears settings.repository settings.order replies
    rcases hc : Collection.collect c.directory settings.repository settings.order
      (.start (.server replies)) with ⟨x, s⟩
    rw [hc] at h
    have ho : out = ((x.map (Report.text settings.style)).mapError .github, s) := by
      simp only [out, report, hm, hc]
      cases x <;> rfl
    rw [ho]
    refine ⟨visits, rest, h.of_iff fun e ↦ ?_⟩
    cases x <;> simp [Except.map, Except.mapError]

/-- Every answer is classified by its status and two header fields alone. A run goes on after each
answer that is accepted, and it fails with a refusal if and only if this is what the last answer is
classified as, be it for a page or for a profile. -/
theorem run_classifies :
    (∀ r x, Status.check r = x ↔ Classified r x) ∧
    ∀ (a : Arguments) (config : Config) (token : Option String) (replies : List Reply),
      let out := run a config token (.start (.server replies))
      ∃ visits rest, Hears replies (out.2.trace.filterMap Event.get?)
        (fun e ↦ out.1 = .error (.github e)) visits rest := by
  refine ⟨fun r x ↦ check_eq_iff, ?_⟩
  intro a config token replies out
  cases hs : Settings.resolve a config with
  | error failure =>
    have ho : out = (.error failure, .start (.server replies)) := by
      simp only [out, run, hs]
    obtain ⟨-, -, rfl⟩ := Settings.resolve_eq_error.1 hs
    rw [ho]
    refine ⟨[], replies, hears_nothing replies fun e _ h ↦ ?_⟩
    cases h
  | ok settings =>
    have ho : out = _ := run_after hs token (.start (.server replies))
    obtain ⟨visits, rest, h⟩ := report_hears settings token replies
    have hn : (opening settings token).filterMap Event.get? = [] := by
      unfold opening
      split <;> rfl
    rcases hr : report settings token (.start (.server replies)) with ⟨x, s⟩
    have hs : { Session.start (.server replies) with trace := [] } =
      Session.start (.server replies) := rfl
    rw [hr] at h
    rw [ho, hs, hr]
    refine ⟨visits, rest, ?_⟩
    simpa only [Prod.map, id, Session.after, Session.start, List.nil_append,
      List.filterMap_append, hn] using h

end Runs

/-- A quota of nothing with a sign, and a time that does not fit in 64 bits. -/
theorem run_classifies_exhausted :
    let refusal : Response := ⟨403, [("X-RateLimit-Remaining", "\t+00 "),
      ("x-ratelimit-remaining", "5"), ("x-ratelimit-reset", "18446744073709551616")], some []⟩
    let a : Arguments := ⟨none, none, false, none, none, false, false⟩
    Classified refusal (.error (.rateLimited none)) ∧
      (run a {} none (.start (.server [.answer refusal]))).1 =
        .error (.github (.rateLimited none)) := by
  intro refusal a
  have hc : Classified refusal (.error (.rateLimited none)) :=
    (run_classifies.1 _ _).1 (by decide)
  let settings : Settings :=
    ⟨⟨"dropwizard", "dropwizard", by decide, by decide⟩, .link, .listed, "https://api.github.com"⟩
  let url := "https://api.github.com/repos/dropwizard/dropwizard/contributors?per_page=100"
  have hs : Settings.resolve a {} = .ok settings := rfl
  have hm : Client.make settings.apiUrl none = .ok ⟨"https://api.github.com", none⟩ := by decide
  have hw : IsWebUrl url := by decide +kernel
  have hb : Breaks url 0 (upcoming [.answer refusal]) (.rateLimited none) :=
    .refused rfl (by decide)
  obtain ⟨-, -, ht⟩ := run_of_broken_listing hs hm (by decide) hw hb []
  obtain ⟨visits, rest, h⟩ := run_classifies.2 a {} none [.answer refusal]
  have hg : (run a {} none (.start (.server [.answer refusal]))).2.trace.filterMap Event.get? =
      [url] := by
    rw [Session.start, ht]
    rfl
  refine ⟨hc, ?_⟩
  rcases h.refused with ⟨ha, -⟩ | ⟨last, ha, he⟩
  · obtain ⟨v, rfl, -⟩ := List.map_eq_singleton_iff.1 (ha.symm.trans hg)
    have hr : [.answer refusal] = v.replies ++ rest := by simpa using h.script
    have hd : v.detour = [] := by
      have hl := congrArg List.length hr
      rw [List.length_append, v.length_replies, List.length_singleton] at hl
      exact List.length_eq_zero_iff.1 (by omega)
    rw [Visit.replies, hd] at hr
    have hr : refusal = v.answer := Reply.answer.inj (List.cons.inj hr).1
    have hv := h.accepted v List.mem_cons_self
    rw [← hr] at hv
    cases hv.unique hc
  · obtain ⟨hv, hl⟩ := List.append_inj' ((ha.symm.trans hg).trans (List.nil_append [url]).symm) rfl
    obtain rfl : last = url := List.singleton_inj.1 hl
    obtain rfl := List.map_eq_nil_iff.1 hv
    obtain rfl : [.answer refusal] = rest := h.script
    exact (he _ rfl).2 ⟨hw, refusal, rfl, hc⟩

end Program

end CreditRoll
