import CreditRoll.Proofs.Exchange
import Mathlib.Data.List.TakeWhile
import Mathlib.Data.Option.Basic

namespace CreditRoll.Url.Address

theorem takeWhile_append_stop {p : Char → Bool} {c : Char} (hc : p c = false) (s t : List Char) :
    (s ++ c :: t).takeWhile p = s.takeWhile p := by
  induction s with
  | nil => exact List.takeWhile_cons_of_neg (by simp [hc])
  | cons d s ih => rw [List.cons_append, List.takeWhile_cons, List.takeWhile_cons, ih]

theorem dropWhile_append_stop {p : Char → Bool} {c : Char} (hc : p c = false) (s t : List Char) :
    (s ++ c :: t).dropWhile p = s.dropWhile p ++ c :: t := by
  induction s with
  | nil => exact List.dropWhile_cons_of_neg (by simp [hc])
  | cons d s ih =>
    rw [List.cons_append, List.dropWhile_cons, List.dropWhile_cons, ih]
    split <;> rfl

section Reading

variable [Idna]

theorem ofParts?_append (scheme : String) (authority path t : List Char) :
    ofParts? scheme authority (path ++ t) =
      (ofParts? scheme authority path).map fun a ↦ { a with path := a.path ++ t } := by
  simp only [ofParts?, Option.bind_eq_bind, Option.pure_def, Option.map_bind, Function.comp_def,
    Option.map_some]

/-- What follows a slash after the authority belongs to the path. -/
theorem afterSlashes?_append_slash (scheme : String) (s t : List Char) :
    afterSlashes? scheme (s ++ '/' :: t) =
      (afterSlashes? scheme s).map fun a ↦ { a with path := a.path ++ '/' :: t } := by
  have he : (!endsAuthority (hostSchemes.contains scheme) '/') = false := rfl
  rw [afterSlashes?, afterSlashes?,
    takeWhile_append_stop (p := (!endsAuthority (hostSchemes.contains scheme) ·)) he,
    dropWhile_append_stop (p := (!endsAuthority (hostSchemes.contains scheme) ·)) he,
    ofParts?_append]

theorem afterSlashes?_nil {scheme : String} (hk : hostSchemes.contains scheme = true) :
    afterSlashes? scheme [] = none := by
  have hn : host? true [] = none := rfl
  simp only [afterSlashes?, ofParts?, hk]
  simp [splitUser, splitHost, portNumber?, hn]

theorem of_afterSlashes? {scheme : String} {s : List Char} {a : Address}
    (ha : afterSlashes? scheme s = some a) :
    a.scheme = scheme ∧ a.host.isSome = true ∧
      a.path = s.dropWhile (!endsAuthority (hostSchemes.contains scheme) ·) := by
  simp only [afterSlashes?, ofParts?, Option.bind_eq_bind, Option.bind_eq_some_iff,
    Option.pure_def, Option.some.injEq] at ha
  obtain ⟨-, -, -, -, rfl⟩ := ha
  exact ⟨rfl, rfl, rfl⟩

theorem isWeb_of_afterSlashes? {scheme : String} (hs : scheme = "http" ∨ scheme = "https")
    {s : List Char} {a : Address} (ha : afterSlashes? scheme s = some a) : a.isWeb = true := by
  obtain ⟨rfl, hh, -⟩ := of_afterSlashes? ha
  simpa [isWeb, hh] using hs

end Reading

theorem strip_append_cons {p : Char → Bool} {a c : Char} (ha : p a = false) (hc : p c = false)
    (s t : List Char) :
    Text.strip p (a :: s ++ c :: t) = a :: s ++ c :: (t.reverse.dropWhile p).reverse := by
  have hf : (a :: s ++ c :: t).dropWhile p = a :: s ++ c :: t := by
    simp [ha]
  have hr : (a :: s ++ c :: t).reverse = t.reverse ++ c :: (a :: s).reverse := by simp
  rw [Text.strip, hf, hr, dropWhile_append_stop hc]
  simp

def isBreak (c : Char) : Bool := c == '\t' || c == '\n' || c == '\r'

def cleanEnd (t : List Char) : List Char :=
  (t.reverse.dropWhile fun c ↦ c.toNat ≤ 0x20).reverse.filter (!isBreak ·)

theorem cleanEnd_of_visible {t : List Char} (h : ∀ c ∈ t, 0x20 < c.toNat) : cleanEnd t = t := by
  have hd : t.reverse.dropWhile (fun c ↦ c.toNat ≤ 0x20) = t.reverse := by
    refine List.dropWhile_eq_self_iff.2 fun hl hp ↦ ?_
    have hv := h _ (List.mem_reverse.1 (List.getElem_mem hl))
    exact Nat.not_le_of_lt hv (of_decide_eq_true hp)
  rw [cleanEnd, hd, List.reverse_reverse, List.filter_eq_self]
  intro c hc
  have hv := h c hc
  simp only [isBreak, Bool.not_eq_true', Bool.or_eq_false_iff, beq_eq_false_iff_ne]
  refine ⟨⟨?_, ?_⟩, ?_⟩ <;> (rintro rfl; exact absurd hv (by decide))

theorem clean_append_slash {a : Char} (ha : ¬ a.toNat ≤ 0x20) (s t : List Char) :
    clean (a :: s ++ '/' :: t) = (a :: s).filter (!isBreak ·) ++ '/' :: cleanEnd t := by
  have hs := strip_append_cons (p := fun c ↦ c.toNat ≤ 0x20) (a := a) (c := '/')
    (by simpa using ha) (by decide) s t
  have hb : (fun c ↦ c != '\t' && c != '\n' && c != '\r') = (!isBreak ·) := by
    funext c
    simp [isBreak, bne]
  rw [clean, hs, hb, List.filter_append]
  rfl

variable [Idna]

theorem parse?_of_clean {url scheme : String} {f : List Char}
    (hs : scheme = "http" ∨ scheme = "https")
    (hc : clean url.toList = scheme.toList ++ ':' :: '/' :: '/' :: f) :
    parse? url = afterSlashes? scheme (f.dropWhile isSlash) := by
  rcases hs with rfl | rfl <;> rw [parse?, hc] <;> rfl

/-- Where something other than slashes precedes it, what follows a slash belongs to the path. -/
theorem afterSlashes?_below {f : List Char} (hf : f.dropWhile isSlash ≠ []) (scheme : String)
    (t : List Char) :
    afterSlashes? scheme ((f ++ '/' :: t).dropWhile isSlash) =
      (afterSlashes? scheme (f.dropWhile isSlash)).map fun a ↦
        { a with path := a.path ++ '/' :: t } := by
  rw [List.dropWhile_append, if_neg (by simpa using hf), afterSlashes?_append_slash]

end CreditRoll.Url.Address

namespace CreditRoll.Github

open Url Address

theorem isWeb_withoutCredentials (a : Address) : a.withoutCredentials.isWeb = a.isWeb := by
  unfold withoutCredentials
  split <;> rfl

theorem host_withoutCredentials (a : Address) : a.withoutCredentials.host = a.host := by
  unfold withoutCredentials
  split <;> rfl

section Names

variable [Idna]

theorem isWebUrl_iff {url : String} :
    IsWebUrl url ↔
      ∃ a, parse? url = some a ∧ a.isWeb = true ∧ a.withoutCredentials.isUri = true := by
  unfold IsWebUrl Client.addressFault?
  cases parse? url with
  | none => simp
  | some a =>
    simp only [isWeb_withoutCredentials, Option.some.injEq, exists_eq_left']
    cases a.isWeb <;> cases a.withoutCredentials.isUri <;> simp

/-- Whether an address is short enough for a request. -/
def Fits (url : String) : Prop :=
  ∀ a ∈ parse? url, a.withoutCredentials.text.toList.length ≤ longest

instance : DecidablePred Fits := fun url ↦
  inferInstanceAs (Decidable (∀ a ∈ parse? url, a.withoutCredentials.text.toList.length ≤ longest))

structure Client.Reaches (c : Client) : Prop where
  isWeb : isWebBase c.base = true
  isWebUrl : IsWebUrl (c.base ++ "/")

end Names

theorem exists_scheme {base : String} (h : Client.isWebBase base = true) :
    ∃ scheme f, (scheme = "http" ∨ scheme = "https") ∧
      base.toList = scheme.toList ++ ':' :: '/' :: '/' :: f := by
  simp only [Client.isWebBase, Bool.or_eq_true, List.isPrefixOf_iff_prefix] at h
  rcases h with ⟨f, hf⟩ | ⟨f, hf⟩
  · exact ⟨"https", f, .inr rfl, hf.symm⟩
  · exact ⟨"http", f, .inl rfl, hf.symm⟩

theorem Client.exists_dropSlashes (base : String) :
    ∃ n, base.toList = (dropSlashes base).toList ++ List.replicate n '/' := by
  let tail := base.toList.reverse.takeWhile (· == '/')
  have ht : tail = List.replicate tail.length '/' :=
    List.eq_replicate_of_mem fun d hd ↦ by simpa using List.mem_takeWhile_imp hd
  have hr : tail.reverse = List.replicate tail.length '/' := by
    rw [ht, List.reverse_replicate, List.length_replicate]
  refine ⟨tail.length, ?_⟩
  rw [dropSlashes, String.toList_ofList, ← hr, ← List.reverse_append,
    List.takeWhile_append_dropWhile, List.reverse_reverse]

theorem Client.make_ok {base : String} {token : Option String} {c : Client}
    (h : make base token = .ok c) : c.base = dropSlashes base ∧ isWebBase c.base = true := by
  unfold make at h
  simp only at h
  split at h
  · cases h
  · next hb =>
    split at h
    · cases h
    · cases h
      exact ⟨rfl, by simpa using hb⟩

section Paths

variable [Idna]

theorem Client.parse?_url {c : Client} (h : isWebBase c.base = true) :
    ∃ scheme f, (scheme = "http" ∨ scheme = "https") ∧ f ⊆ c.base.toList ∧
      ∀ {path : String} {t : List Char}, path.toList = '/' :: t →
        parse? (c.url path) =
          afterSlashes? scheme ((f ++ '/' :: cleanEnd t).dropWhile isSlash) := by
  obtain ⟨scheme, f, hs, hf⟩ := exists_scheme h
  have hm : f.filter (!isBreak ·) ⊆ c.base.toList := fun ch hc ↦ by
    rw [hf]
    simp [(List.mem_filter.1 hc).1]
  refine ⟨scheme, f.filter (!isBreak ·), hs, hm, fun {path t} hp ↦ parse?_of_clean hs ?_⟩
  rw [url, String.toList_append, hf, hp]
  rcases hs with rfl | rfl
  · exact clean_append_slash (a := 'h') (by decide) _ t
  · exact clean_append_slash (a := 'h') (by decide) _ t

/-- The addresses of all paths differ in nothing but the path, if one with no step can be read. -/
theorem Client.exists_home {c : Client} (h : isWebBase c.base = true) {n : Nat} {a : Address}
    (ha : parse? (c.base ++ String.ofList ('/' :: List.replicate n '/')) = some a) :
    ∃ home : Address, home.isWeb = true ∧
      a = { home with path := home.path ++ '/' :: List.replicate n '/' } ∧
      ∀ {path : String} {t : List Char}, path.toList = '/' :: t →
        parse? (c.url path) = some { home with path := home.path ++ '/' :: cleanEnd t } := by
  obtain ⟨scheme, f, hs, -, hu⟩ := parse?_url h
  have hk : hostSchemes.contains scheme = true := by rcases hs with rfl | rfl <;> rfl
  have hc : cleanEnd (List.replicate n '/') = List.replicate n '/' :=
    cleanEnd_of_visible fun d hd ↦ (List.mem_replicate.1 hd).2 ▸ by decide
  have hr := (hu String.toList_ofList).symm.trans ha
  rw [hc] at hr
  have hf : f.dropWhile isSlash ≠ [] := by
    intro he
    have hnil : (f ++ '/' :: List.replicate n '/').dropWhile isSlash = [] := by
      refine List.dropWhile_eq_nil_iff.2 fun d hd ↦ ?_
      rcases List.mem_append.1 hd with hd | hd
      · exact List.dropWhile_eq_nil_iff.1 he d hd
      · rw [← List.replicate_succ] at hd
        exact (List.mem_replicate.1 hd).2 ▸ rfl
    rw [hnil, afterSlashes?_nil hk] at hr
    cases hr
  rw [afterSlashes?_below hf] at hr
  obtain ⟨home, hh, rfl⟩ := Option.map_eq_some_iff.1 hr
  refine ⟨home, isWeb_of_afterSlashes? hs hh, rfl, fun hp ↦ ?_⟩
  rw [hu hp, afterSlashes?_below hf, hh]
  rfl

/-- A base that can be read may be followed by any path, as long as the whole fits. -/
theorem Client.Reaches.url {c : Client} (hc : c.Reaches) {path : String} {t : List Char}
    (hp : path.toList = '/' :: t) (hf : Fits (c.url path)) : IsWebUrl (c.url path) := by
  obtain ⟨a, ha, -, hu⟩ := isWebUrl_iff.1 hc.isWebUrl
  obtain ⟨home, hw, rfl, hh⟩ := exists_home (n := 0) hc.isWeb ha
  have hl := hf _ (hh hp)
  simp only [isUri, host_withoutCredentials, Bool.and_eq_true, decide_eq_true_eq] at hu hl
  refine isWebUrl_iff.2 ⟨_, hh hp, hw, ?_⟩
  simp only [isUri, host_withoutCredentials, Bool.and_eq_true, decide_eq_true_eq]
  exact ⟨hu.1, hl⟩

end Paths

theorem Client.listingUrl_eq (c : Client) (owner name : String) :
    c.listingUrl owner name = c.base ++ "/repos/" ++ Segment.encode owner ++ "/" ++
      Segment.encode name ++ "/contributors?per_page=100" := by
  have hn : toString perPage = "100" := rfl
  simp only [listingUrl, url, hn, String.append_assoc]
  rfl

theorem Client.exists_listingPath (c : Client) (owner name : String) :
    ∃ path t, path.toList = '/' :: t ∧ c.listingUrl owner name = c.url path :=
  ⟨_, ("repos/" ++ Segment.encode owner ++ "/" ++ Segment.encode name ++
    "/contributors?per_page=" ++ toString perPage).toList,
    by simp only [String.toList_append]; rfl, rfl⟩

theorem Client.exists_profilePath (c : Client) (login : String) :
    ∃ path t, path.toList = '/' :: t ∧ c.profileUrl login = c.url path :=
  ⟨_, ("users/" ++ Segment.encode login).toList, by simp only [String.toList_append]; rfl, rfl⟩

variable [Idna]

theorem Client.Reaches.listingUrl {c : Client} (hc : c.Reaches) {owner name : String}
    (hf : Fits (c.listingUrl owner name)) : IsWebUrl (c.listingUrl owner name) := by
  obtain ⟨path, t, hp, he⟩ := c.exists_listingPath owner name
  rw [he] at hf ⊢
  exact hc.url hp hf

theorem Client.Reaches.profileUrl {c : Client} (hc : c.Reaches) {login : String}
    (hf : Fits (c.profileUrl login)) : IsWebUrl (c.profileUrl login) := by
  obtain ⟨path, t, hp, he⟩ := c.exists_profilePath login
  rw [he] at hf ⊢
  exact hc.url hp hf

end CreditRoll.Github
