import CreditRoll.Config.Lookup
import CreditRoll.Environment
import CreditRoll.Files.Tree
import CreditRoll.Proofs.Utf8

namespace CreditRoll

open Text.Utf8 (encode)

namespace Environment

def Holds (v : Variables) (name text : String) : Prop :=
  v name = some (encode text.toList) ∧ text ≠ ""

/-- The one directory that a config is looked for in, or none. -/
inductive Consulted (v : Variables) : Option String → Prop
  | own {dir : String} (h : Holds v "XDG_CONFIG_HOME" dir) :
      Consulted v (some (Path.join dir "ghcredits"))
  | home {dir : String} (ho : ∀ s, ¬ Holds v "XDG_CONFIG_HOME" s) (h : Holds v "HOME" dir) :
      Consulted v (some (Path.join (Path.join dir ".config") "ghcredits"))
  | nowhere (ho : ∀ s, ¬ Holds v "XDG_CONFIG_HOME" s) (hh : ∀ s, ¬ Holds v "HOME" s) :
      Consulted v none

variable {v : Variables}

theorem notEmpty?_eq_some_iff {name text : String} :
    notEmpty? v name = some text ↔ Holds v name text := by
  rw [notEmpty?, Option.filter_eq_some_iff, text?, Option.map_eq_some_iff]
  constructor
  · rintro ⟨⟨s, hs, rfl⟩, hne⟩
    obtain ⟨bytes, hb, hd⟩ := Option.bind_eq_some_iff.1 hs
    rw [Text.Utf8.decode?_eq_some_iff] at hd
    refine ⟨?_, by simpa using hne⟩
    rw [String.toList_ofList, ← hd]
    exact hb
  · rintro ⟨hv, hne⟩
    refine ⟨⟨text.toList, ?_, String.ofList_toList⟩, by simpa using hne⟩
    rw [hv]
    exact Text.Utf8.decode?_encode _

theorem notEmpty?_eq_none_iff {name : String} :
    notEmpty? v name = none ↔ ∀ text, ¬ Holds v name text := by
  rw [Option.eq_none_iff_forall_ne_some]
  exact forall_congr' fun text ↦ not_congr notEmpty?_eq_some_iff

theorem consulted_ownConfigDir (v : Variables) : Consulted v (read v).ownConfigDir := by
  have hd : (read v).ownConfigDir = (configDir? v).map (Path.join · "ghcredits") := rfl
  rw [hd, configDir?]
  cases ho : notEmpty? v "XDG_CONFIG_HOME" with
  | some dir => exact .own (notEmpty?_eq_some_iff.1 ho)
  | none =>
    have ho := notEmpty?_eq_none_iff.1 ho
    cases hh : notEmpty? v "HOME" with
    | some dir => exact .home ho (notEmpty?_eq_some_iff.1 hh)
    | none => exact .nowhere ho (notEmpty?_eq_none_iff.1 hh)

theorem Consulted.eq {dir : Option String} (h : Consulted v dir) :
    dir = (read v).ownConfigDir := by
  have hd : (read v).ownConfigDir = (configDir? v).map (Path.join · "ghcredits") := rfl
  rw [hd, configDir?]
  cases h with
  | own h =>
    rw [notEmpty?_eq_some_iff.2 h]
    rfl
  | home ho h =>
    rw [notEmpty?_eq_none_iff.2 ho, notEmpty?_eq_some_iff.2 h]
    rfl
  | nowhere ho hh =>
    rw [notEmpty?_eq_none_iff.2 ho, notEmpty?_eq_none_iff.2 hh]
    rfl

end Environment

namespace Path

theorem parts_join (dir : String) {name : String} (hn : name ≠ "") (hs : '/' ∉ name.toList) :
    parts (join dir name) = parts dir ++ [name] := by
  have hone : (name.toList.splitOn '/').map String.ofList = [name] := by
    rw [List.splitOn_eq_singleton hs]
    simp
  have hj (d : List Char) : parts (String.ofList (d ++ '/' :: name.toList)) =
      ((d.splitOn '/').map String.ofList).filter (!·.isEmpty) ++ [name] := by
    rw [parts, String.toList_ofList, List.splitOn_append_cons_self, List.map_append, hone,
      List.filter_append]
    simp [hn]
  have hh : (name.toList.head? == some '/') = false := by
    rw [beq_eq_false_iff_ne]
    intro h
    exact hs (List.mem_of_mem_head? h)
  rw [join, hh]
  simp only [Bool.false_eq_true, if_false]
  split
  · next hd =>
    rcases Bool.or_eq_true_iff.1 hd with hd | hd
    · obtain rfl : dir = "" := by simpa using hd
      rw [String.empty_append, parts, hone]
      simp [parts, hn]
    · obtain ⟨d, hd⟩ := List.getLast?_eq_some_iff.1 (beq_iff_eq.1 hd)
      have he : dir ++ name = String.ofList (d ++ '/' :: name.toList) := by
        rw [← String.toList_inj, String.toList_append, hd, String.toList_ofList]
        simp
      rw [he, hj, parts, hd, List.splitOn_append_cons_self]
      simp
  · have he : dir ++ "/" ++ name = String.ofList (dir.toList ++ '/' :: name.toList) := by
      rw [← String.toList_inj, String.toList_append, String.toList_append, String.toList_ofList]
      simp
    rw [he, hj]
    rfl

end Path

namespace FileTree

variable {t : FileTree} {place : String} {dir steps reached : List String}

inductive Reaches (t : FileTree) : List String → List String → List String → Prop
  | here (dir : List String) : Reaches t dir [] dir
  | stay {dir steps reached : List String} (h : Reaches t dir steps reached) :
      Reaches t dir ("." :: steps) reached
  | up {dir steps reached : List String} (hd : dir ≠ []) (h : Reaches t dir.dropLast steps reached) :
      Reaches t dir (".." :: steps) reached
  | down {dir steps reached : List String} {name : String} (hn : name ≠ "." ∧ name ≠ "..")
      (hi : t.item (dir ++ [name]) = .directory) (h : Reaches t (dir ++ [name]) steps reached) :
      Reaches t dir (name :: steps) reached

theorem walk_cons (dir : List String) {name : String} (hn : name ≠ "." ∧ name ≠ "..")
    (rest : List String) :
    t.walk dir (name :: rest) = match t.item (dir ++ [name]) with
      | .absent => .absent
      | .directory => t.walk (dir ++ [name]) rest
      | .file bytes => if rest.isEmpty then .content bytes else .failed .notDirectory := by
  cases hi : t.item (dir ++ [name]) <;> simp [walk, hn, hi]

theorem Reaches.walk_append (h : t.Reaches dir steps reached) (rest : List String) :
    t.walk dir (steps ++ rest) = t.walk reached rest := by
  induction h with
  | here dir => rfl
  | stay h ih =>
    rw [List.cons_append, walk]
    exact ih
  | @up dir steps reached hd h ih =>
    have he : dir.isEmpty = false := by simpa using hd
    rw [List.cons_append, walk, he]
    exact ih
  | down hn hi h ih =>
    rw [List.cons_append, walk_cons _ hn, hi]
    exact ih

theorem mounted_join {dir name : String} (hd : Path.parts dir = place :: steps) (hn : name ≠ "")
    (hs : '/' ∉ name.toList) :
    t.mounted place (Path.join dir name) = t.walk [] (steps ++ [name]) := by
  rw [mounted, Path.parts_join dir hn hs, hd]
  simp

end FileTree

namespace Config

def Error.path : Error → String
  | unreadable path _ => path
  | malformed path => path
  | wrong path _ => path

/-- A message names the file that it is about. -/
theorem Error.exists_message (e : Error) :
    ∃ front back : String, e.message = front ++ e.path ++ ": " ++ back := by
  cases e with
  | unreadable path fault =>
    have hm : (unreadable path fault).message =
        "Failed to read config file " ++ path ++ ": " ++ fault.message := rfl
    exact ⟨_, _, hm⟩
  | malformed path =>
    have hm : (malformed path).message =
        "Invalid config file " ++ path ++ ": not a single well-formed document" := rfl
    have hc : ": not a single well-formed document" =
        ": " ++ "not a single well-formed document" := by decide
    rw [hc, ← String.append_assoc] at hm
    exact ⟨_, _, hm⟩
  | wrong path fault =>
    have hm : (wrong path fault).message =
        "Invalid config file " ++ path ++ ": " ++ fault.message := rfl
    exact ⟨_, _, hm⟩

inductive Makes (path : String) : Reading → Except Error Config → Prop
  | blank {s : List Char} (h : s.all Text.isBlank = true) :
      Makes path (.content (encode s)) (.ok {})
  | config {s : List Char} {c : Config} (h : ofText? s = some (.ok c)) :
      Makes path (.content (encode s)) (.ok c)
  | malformed {s : List Char} (h : ofText? s = none) :
      Makes path (.content (encode s)) (.error (.malformed path))
  | wrong {s : List Char} {fault : Fault} (h : ofText? s = some (.error fault)) :
      Makes path (.content (encode s)) (.error (.wrong path fault))
  | notText {bytes : List UInt8} (h : ∀ s, bytes ≠ encode s) :
      Makes path (.content bytes) (.error (.unreadable path .notText))
  | failed (fault : ReadFault) : Makes path (.failed fault) (.error (.unreadable path fault))

/-- What comes of the files of a directory: the second is asked if the first is missing. -/
inductive Decided (files : Files) : Option String → Except Error Config → Prop
  | nowhere : Decided files none (.ok {})
  | missing {dir : String} (h : ∀ path ∈ candidates dir, files path = .absent) :
      Decided files (some dir) (.ok {})
  | first {dir : String} {r : Except Error Config}
      (h : Makes (Path.join dir "config.yaml") (files (Path.join dir "config.yaml")) r) :
      Decided files (some dir) r
  | second {dir : String} {r : Except Error Config}
      (hf : files (Path.join dir "config.yaml") = .absent)
      (h : Makes (Path.join dir "config.yml") (files (Path.join dir "config.yml")) r) :
      Decided files (some dir) r

def deciding (files : Files) : Option String → List String
  | none => []
  | some dir =>
    if files (Path.join dir "config.yaml") = .absent then candidates dir
    else [Path.join dir "config.yaml"]

def IsValid (reading : Reading) : Prop :=
  ∃ s c, reading = .content (encode s) ∧ ofText? s = some (.ok c)

variable {files files' : Files} {path : String} {r : Except Error Config}

theorem makes_firstOf (h : files path ≠ .absent) (paths : List String) :
    Makes path (files path) (firstOf files (path :: paths)) := by
  cases hr : files path with
  | absent => exact absurd hr h
  | failed fault =>
    simp only [firstOf, hr]
    exact .failed fault
  | content bytes =>
    cases hd : Text.Utf8.decode? bytes with
    | none =>
      simp only [firstOf, hr, hd]
      refine .notText ?_
      rintro s rfl
      rw [Text.Utf8.decode?_encode] at hd
      cases hd
    | some s =>
      obtain rfl := Text.Utf8.decode?_eq_some_iff.1 hd
      simp only [firstOf, hr, hd, parse]
      rcases ho : ofText? s with _ | fault | c
      · exact .malformed ho
      · exact .wrong ho
      · exact .config ho

theorem Makes.eq_firstOf (h : Makes path (files path) r) (paths : List String) :
    r = firstOf files (path :: paths) := by
  generalize hr : files path = reading at h
  cases h with
  | @blank s h =>
    have ho : ofText? s = some (.ok {}) := by rw [ofText?, if_pos h]
    simp only [firstOf, hr, Text.Utf8.decode?_encode, parse, ho]
    rfl
  | config h =>
    simp only [firstOf, hr, Text.Utf8.decode?_encode, parse, h]
    rfl
  | malformed h => simp only [firstOf, hr, Text.Utf8.decode?_encode, parse, h]
  | wrong h =>
    simp only [firstOf, hr, Text.Utf8.decode?_encode, parse, h]
    rfl
  | @notText bytes h =>
    have hd : Text.Utf8.decode? bytes = none := by
      rw [Option.eq_none_iff_forall_ne_some]
      intro s hs
      exact h s (Text.Utf8.decode?_eq_some_iff.1 hs)
    simp only [firstOf, hr, hd]
  | failed fault => simp only [firstOf, hr]

theorem firstOf_of_absent (h : files path = .absent) (paths : List String) :
    firstOf files (path :: paths) = firstOf files paths := by
  rw [firstOf, h]

theorem decided_load (files : Files) (dir : Option String) :
    Decided files dir (load files dir) := by
  cases dir with
  | none => exact .nowhere
  | some dir =>
    change Decided files (some dir)
      (firstOf files [Path.join dir "config.yaml", Path.join dir "config.yml"])
    by_cases hf : files (Path.join dir "config.yaml") = .absent
    · rw [firstOf_of_absent hf]
      by_cases hs : files (Path.join dir "config.yml") = .absent
      · rw [firstOf_of_absent hs]
        exact .missing (by simp [candidates, hf, hs])
      · exact .second hf (makes_firstOf hs [])
    · exact .first (makes_firstOf hf _)

theorem Decided.eq_load {dir : Option String} (h : Decided files dir r) : r = load files dir := by
  cases h with
  | nowhere => rfl
  | @missing dir h =>
    have hf : files (Path.join dir "config.yaml") = .absent := h _ (by simp [candidates])
    have hs : files (Path.join dir "config.yml") = .absent := h _ (by simp [candidates])
    change _ = firstOf files [Path.join dir "config.yaml", Path.join dir "config.yml"]
    rw [firstOf_of_absent hf, firstOf_of_absent hs]
    rfl
  | @first dir _ h => exact h.eq_firstOf [Path.join dir "config.yml"]
  | second hf h =>
    change _ = firstOf files [_, _]
    rw [firstOf_of_absent hf]
    exact h.eq_firstOf []

theorem Makes.exists_error {reading : Reading} (h : Makes path reading r) (hv : ¬ IsValid reading) :
    ∃ e, r = .error e ∧ e.path = path := by
  cases h with
  | @blank s h =>
    have ho : ofText? s = some (.ok {}) := by rw [ofText?, if_pos h]
    exact absurd ⟨s, {}, rfl, ho⟩ hv
  | @config s c h => exact absurd ⟨s, c, rfl, h⟩ hv
  | malformed h => exact ⟨_, rfl, rfl⟩
  | wrong h => exact ⟨_, rfl, rfl⟩
  | notText h => exact ⟨_, rfl, rfl⟩
  | failed fault => exact ⟨_, rfl, rfl⟩

theorem load_congr {dir : Option String}
    (h : ∀ path ∈ deciding files dir, files' path = files path) :
    load files' dir = load files dir := by
  cases dir with
  | none => rfl
  | some dir =>
    change firstOf files' [Path.join dir "config.yaml", Path.join dir "config.yml"] =
      firstOf files [Path.join dir "config.yaml", Path.join dir "config.yml"]
    rw [deciding] at h
    split at h
    · next hf =>
      have hy : files' (Path.join dir "config.yml") = files (Path.join dir "config.yml") :=
        h _ (by simp [candidates])
      have hf' : files' (Path.join dir "config.yaml") = .absent :=
        (h _ (by simp [candidates])).trans hf
      rw [firstOf_of_absent hf, firstOf_of_absent hf']
      simp only [firstOf, hy]
    · next hf =>
      have hf' := h _ (List.mem_singleton.2 rfl)
      cases hr : files (Path.join dir "config.yaml") with
      | absent => exact absurd hr hf
      | failed fault => simp only [firstOf, hf', hr]
      | content bytes => simp only [firstOf, hf', hr]

theorem load_of_failed {dir : String} {fault : ReadFault}
    (h : files (Path.join dir "config.yaml") = .failed fault) :
    load files (some dir) = .error (.unreadable (Path.join dir "config.yaml") fault) := by
  change firstOf files [Path.join dir "config.yaml", Path.join dir "config.yml"] = _
  rw [firstOf, h]

/-- A config is looked for in one directory. The first of its two files decides, and the second does
only where the first is missing. A first file that is there without a valid config in it is an error
that names it, whatever else there is. -/
theorem load_consults_one_directory (v : Variables) :
    let dir := (Environment.read v).ownConfigDir
    (∀ d, Environment.Consulted v d ↔ d = dir) ∧
    (∀ files r, Decided files dir r ↔ r = load files dir) ∧
    (∀ files files', (∀ path ∈ deciding files dir, files' path = files path) →
      load files' dir = load files dir) ∧
    ∀ d ∈ dir, let first := Path.join d "config.yaml"
      (∀ files, files first ≠ .absent → ¬ IsValid (files first) →
        ∃ e, load files dir = .error e ∧ e.path = first ∧
          ∃ front back : String, e.message = front ++ first ++ ": " ++ back) ∧
      ∀ (t : FileTree) (place : String) (steps : List String), Path.parts d = place :: steps →
        (∀ reached, t.Reaches [] steps reached →
          t.item (reached ++ ["config.yaml"]) = .directory →
            load (t.mounted place) dir = .error (.unreadable first .isDirectory)) ∧
        ∀ before name after reached bytes, steps = before ++ name :: after →
          t.Reaches [] before reached → name ≠ "." ∧ name ≠ ".." →
            t.item (reached ++ [name]) = .file bytes →
              load (t.mounted place) dir = .error (.unreadable first .notDirectory) := by
  intro dir
  refine ⟨?_, ?_, fun files files' ↦ load_congr, ?_⟩
  · intro d
    constructor
    · exact Environment.Consulted.eq
    · rintro rfl
      exact Environment.consulted_ownConfigDir v
  · intro files r
    constructor
    · exact Decided.eq_load
    · rintro rfl
      exact decided_load files dir
  · intro d hd first
    obtain hd : dir = some d := hd
    rw [hd]
    refine ⟨?_, ?_⟩
    · intro files hf hv
      obtain ⟨e, he, hp⟩ := (makes_firstOf hf [Path.join d "config.yml"]).exists_error hv
      refine ⟨e, he, hp, ?_⟩
      rw [← hp]
      exact e.exists_message
    · intro t place steps hs
      have hm : t.mounted place first = t.walk [] (steps ++ ["config.yaml"]) :=
        FileTree.mounted_join hs (by decide) (by decide)
      refine ⟨?_, ?_⟩
      · intro reached hl hi
        apply load_of_failed
        rw [hm, hl.walk_append, FileTree.walk_cons _ (by decide), hi]
        rfl
      · rintro before name after reached bytes rfl hl hn hi
        apply load_of_failed
        rw [hm, List.append_assoc, hl.walk_append, List.cons_append, FileTree.walk_cons _ hn, hi]
        simp

theorem load_consults_one_directory_masked :
    let v : Variables := fun name ↦
      if name = "XDG_CONFIG_HOME" then some (encode "/etc/xdg".toList) else none
    let first := "/etc/xdg/ghcredits/config.yaml"
    let second := "/etc/xdg/ghcredits/config.yml"
    let files : Files := fun path ↦
      if path = first then .failed .isDirectory
      else if path = second then .content (encode "order: name".toList) else .absent
    (Environment.read v).ownConfigDir = some "/etc/xdg/ghcredits" ∧
      ∃ e, load files (Environment.read v).ownConfigDir = .error e ∧ e.path = first := by
  intro v first second files
  have hd : (Environment.read v).ownConfigDir = some "/etc/xdg/ghcredits" := by decide
  have hf : files first = .failed .isDirectory := if_pos rfl
  have hj : Path.join "/etc/xdg/ghcredits" "config.yaml" = first := by decide
  obtain ⟨hn, -⟩ := (load_consults_one_directory v).2.2.2 _ hd
  rw [hj] at hn
  obtain ⟨e, he, hp, -⟩ := hn files (by rw [hf]; decide) (by simp [IsValid, hf])
  exact ⟨hd, e, he, hp⟩

end Config

end CreditRoll
