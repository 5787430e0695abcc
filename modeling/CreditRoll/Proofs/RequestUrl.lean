import CreditRoll.Proofs.Address
import CreditRoll.Proofs.Segment

namespace CreditRoll.Url.Segment

def decode? (segment : List Char) : Option String :=
  (Text.Utf8.decode? (Host.unescape segment)).map String.ofList

theorem decode?_encode (s : String) : decode? (encode s).toList = some s := by
  rw [decode?, unescape_encode, Text.Utf8.decode?_encode, Option.map_some, String.ofList_toList]

theorem encode_injective : Function.Injective encode := by
  intro s t h
  have hd := decode?_encode s
  rw [h, decode?_encode] at hd
  exact (Option.some.inj hd).symm

theorem mapM_decode? (steps : List String) :
    (steps.map fun s ↦ (encode s).toList).mapM decode? = some steps :=
  mapM_map_eq_some fun s _ ↦ decode?_encode s

end CreditRoll.Url.Segment

namespace CreditRoll.Github

open Url Segment

/-- What a client asks for of its own accord. The later pages of a listing have their addresses from
the service. -/
inductive Query where
  | listing (owner name : String)
  | profile (login : String)
  deriving DecidableEq, Repr

def Client.address (c : Client) : Query → String
  | .listing owner name => c.listingUrl owner name
  | .profile login => c.profileUrl login

namespace Query

def steps : Query → List String
  | listing owner name => ["repos", owner, name, "contributors"]
  | profile login => ["users", login]

def suffix : Query → String
  | listing _ _ => "?per_page=100"
  | profile _ => ""

def pieces : Query → List (List Char)
  | listing owner name => ["repos".toList, (encode owner).toList, (encode name).toList,
      "contributors?per_page=100".toList]
  | profile login => ["users".toList, (encode login).toList]

theorem pieces_decode (q : Query) :
    ∃ front last, q.pieces = front ++ [last ++ q.suffix.toList] ∧
      (front ++ [last]).mapM decode? = some q.steps := by
  have hr : encode "repos" = "repos" := by decide
  have hc : encode "contributors" = "contributors" := by decide
  have hu : encode "users" = "users" := by decide
  cases q with
  | listing owner name =>
    have hd := mapM_decode? ["repos", owner, name, "contributors"]
    simp only [List.map_cons, List.map_nil, hr, hc] at hd
    exact ⟨["repos".toList, (encode owner).toList, (encode name).toList], "contributors".toList,
      by simp [pieces, suffix], hd⟩
  | profile login =>
    have hd := mapM_decode? ["users", login]
    simp only [List.map_cons, List.map_nil, hu] at hd
    exact ⟨["users".toList], (encode login).toList, by simp [pieces, suffix], hd⟩

theorem splitOn_pieces (q : Query) : (['/'].intercalate q.pieces).splitOn '/' = q.pieces := by
  have he (s : String) : '/' ∉ (encode s).toList :=
    fun h ↦ ne_of_mem_encode h (by decide) (by decide) rfl
  cases q with
  | listing owner name =>
    refine List.splitOn_intercalate '/' ?_ (List.cons_ne_nil _ _)
    simp [pieces, he]
  | profile login =>
    refine List.splitOn_intercalate '/' ?_ (List.cons_ne_nil _ _)
    simp [pieces, he]

theorem pieces_injective : Function.Injective pieces := by
  intro q q' h
  cases q with
  | listing owner name =>
    cases q' with
    | listing owner' name' => simpa [pieces, String.toList_inj, encode_injective.eq_iff] using h
    | profile login => simp [pieces] at h
  | profile login =>
    cases q' with
    | listing owner name => simp [pieces] at h
    | profile login' => simpa [pieces, String.toList_inj, encode_injective.eq_iff] using h

end Query

namespace Client

theorem toList_address (c : Client) (q : Query) :
    (c.address q).toList = c.base.toList ++ '/' :: ['/'].intercalate q.pieces := by
  cases q with
  | listing owner name =>
    rw [address, listingUrl_eq]
    simp [Query.pieces, List.intercalate]
  | profile login =>
    rw [address, profileUrl, url]
    simp [Query.pieces, List.intercalate]

/-- A segment is written in visible ASCII and read back as it was. So the steps of a request are
read back from its address, and no two requests of a client have the same one. -/
theorem address_faithful :
    (∀ s : String, (∀ d ∈ (encode s).toList, 0x20 < d.toNat ∧ d.toNat < 0x7F) ∧
      decode? (encode s).toList = some s) ∧
    ∀ c : Client,
      (∀ q, ∃ rest front last, (c.address q).toList = c.base.toList ++ '/' :: rest ∧
        rest.splitOn '/' = front ++ [last ++ q.suffix.toList] ∧
        (front ++ [last]).mapM decode? = some q.steps) ∧
      Function.Injective c.address := by
  refine ⟨fun s ↦ ⟨fun d ↦ visible_of_mem_encode, decode?_encode s⟩, fun c ↦ ⟨fun q ↦ ?_, ?_⟩⟩
  · obtain ⟨front, last, hp, hd⟩ := q.pieces_decode
    exact ⟨_, front, last, c.toList_address q, q.splitOn_pieces.trans hp, hd⟩
  · intro q q' h
    have ha := congrArg String.toList h
    rw [toList_address, toList_address, List.append_cancel_left_eq, List.cons_inj_right] at ha
    have hs := congrArg (List.splitOn '/') ha
    rw [Query.splitOn_pieces, Query.splitOn_pieces] at hs
    exact Query.pieces_injective hs

end Client

end CreditRoll.Github
