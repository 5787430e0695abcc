import CreditRoll.Proofs.Run
import CreditRoll.Proofs.Spelling

namespace CreditRoll

namespace CommandLine

/-- The verbose switch may stand before all other words. -/
theorem parse_verbose {words : List String} {a : Arguments} (h : parse words = .ok a)
    (hv : a.verbose = false) (hs : a.configSchema = false) :
    parse ("-v" :: words) = .ok { a with verbose := true } := by
  let s : Spelling := .group [.verbose] ['v'] (List.cons_ne_nil _ _) (.cons ⟨rfl, rfl⟩ .nil)
  have hw (b : Accepted) :
      readWords b none ("-v" :: words) = b.add .verbose "" >>= (readWords · none words) := by
    have hr := readWords_words (s := s) b none words trivial
    have hs : s.words = ["-v"] := by decide
    rw [hs] at hr
    rw [← Accepted.addAll_singleton]
    exact hr
  have hn : a.has .verbose = false := hv
  exact parse_before h hn hs ⟨by decide, by decide⟩ (fun ho ↦ by cases ho) hw

end CommandLine

namespace Environment

/-- One variable alone says what is logged. -/
theorem read_congr {v v' : Variables} (h : ∀ name, name ≠ "GHCREDITS_LOG" → v' name = v name) :
    read v' = { read v with log := (read v').log } := by
  have ht (name : String) (hn : name ≠ "GHCREDITS_LOG") : text? v' name = text? v name := by
    simp only [text?, h name hn]
  simp only [read, notBlank?, configDir?, notEmpty?, ht "GITHUB_TOKEN" (by decide),
    ht "XDG_CONFIG_HOME" (by decide), ht "HOME" (by decide)]

end Environment

namespace Program

open CommandLine (Arguments)
open Github (Session)
open Http (Library)
open Url (Idna)

def Outcome.after (told : List String) (out : Outcome) : Outcome :=
  { out with complaints := told ++ out.complaints }

/-- A run for the credits shows a text or tells why there is none. -/
theorem credits_shown_or_failed [Idna] [Library] (a : Arguments) (e : Environment) (files : Files)
    (s : Session) :
    ∃ s', (∃ text, credits a e files s = .shown text s') ∨
      ∃ message causes, credits a e files s = .failed message causes s' := by
  cases hc : Config.load files e.ownConfigDir with
  | error fault =>
    refine ⟨configTold files e.ownConfigDir s, .inr ⟨fault.message, fault.causes, ?_⟩⟩
    simp only [credits, hc]
  | ok config =>
    rcases hr : run a config e.token (configTold files e.ownConfigDir s) with ⟨failure | text, s'⟩
    · exact ⟨s', .inr ⟨_, _, credits_of_run_error hc hr⟩⟩
    · refine ⟨s', .inl ⟨text, ?_⟩⟩
      simp only [credits, hc, hr]

theorem warnings_verbose {a : Arguments} (h : a.verbose = true) (v : Variables) :
    warnings a v = [] := by
  have hd : LogFilter.warning? "debug" = none := by decide
  simp only [warnings, LogFilter.directives, h, if_true, hd, Option.toList_none]

/-- What a run prints, sends and fails with does not depend on what is logged. A log filter that is
no filter is complained about, and the verbose switch takes the place of any filter. -/
theorem execute_ignores_logging [Idna] [Library] {words : List String} {a : Arguments}
    (hp : CommandLine.parse words = .ok a) (hv : a.verbose = false) (hs : a.configSchema = false)
    (v : Variables) (files : Files) (s : Session) :
    let result := credits a (Environment.read v) files s
    (result.exitCode = 0 ∧ result.complaints = [] ∨
      result.exitCode = 1 ∧ result.output = "" ∧
        ∃ message, result.complaints = ["Error: " ++ message]) ∧
    ∀ v', (∀ name, name ≠ "GHCREDITS_LOG" → v' name = v name) →
      execute words v' files s =
        result.after (LogFilter.warning? ((Environment.read v').log.getD "warn")).toList ∧
      execute ("-v" :: words) v' files s = result := by
  intro result
  refine ⟨?_, fun v' h ↦ ⟨?_, ?_⟩⟩
  · obtain ⟨s', ⟨text, hr⟩ | ⟨message, causes, hr⟩⟩ :=
      credits_shown_or_failed a (Environment.read v) files s
    · have hr : result = .shown text s' := hr
      rw [hr]
      exact .inl ⟨rfl, rfl⟩
    · have hr : result = .failed message causes s' := hr
      rw [hr]
      exact .inr ⟨rfl, rfl, Outcome.told message causes, rfl⟩
  · have hw : warnings a v' =
        (LogFilter.warning? ((Environment.read v').log.getD "warn")).toList := by
      simp only [warnings, LogFilter.directives, hv, Bool.false_eq_true, if_false]
    rw [execute_of_parse hp hs, Environment.read_congr h, hw]
    rfl
  · have hp' := CommandLine.parse_verbose hp hv hs
    have hs' : { a with verbose := true }.configSchema = false := hs
    rw [execute_of_parse hp' hs', Environment.read_congr h, warnings_verbose rfl]
    rfl

/-- A filter that is no filter, against the verbose switch. -/
theorem execute_ignores_logging_malformed :
    let words := ["--repo", "o/r"]
    let v (log : Option (List UInt8)) : Variables := fun name ↦
      if name = "GHCREDITS_LOG" then log else none
    let out (words : List String) (log : Option (List UInt8)) :=
      execute words (v log) (fun _ ↦ .absent) (.start (.server [.hangUp]))
    out words (some [0x5B]) =
        (out words none).after
          ["Ignoring invalid log filter \"[\": invalid filter directive"] ∧
      out ("-v" :: words) (some [0x5B]) = out words none := by
  intro words v out
  have hp : CommandLine.parse words = .ok
      ⟨some ⟨"o", "r", by decide, by decide⟩, none, false, none, none, false, false⟩ := rfl
  have hv (log : Option (List UInt8)) :
      ∀ name, name ≠ "GHCREDITS_LOG" → v log name = v none name := by
    intro name hn
    simp only [v, if_neg hn]
  have h := (execute_ignores_logging hp rfl rfl (v none) (fun _ ↦ .absent)
    (.start (.server [.hangUp]))).2
  have hm : (LogFilter.warning? ((Environment.read (v (some [0x5B]))).log.getD "warn")).toList =
      ["Ignoring invalid log filter \"[\": invalid filter directive"] := by decide +kernel
  have hn : (LogFilter.warning? ((Environment.read (v none)).log.getD "warn")).toList = [] := by
    decide +kernel
  obtain ⟨ho, -⟩ := h (v none) (hv none)
  obtain ⟨hf, hw⟩ := h (v (some [0x5B])) (hv _)
  rw [hn] at ho
  rw [hm] at hf
  have ho : out words none = _ := ho
  rw [ho]
  exact ⟨hf, hw⟩

end Program

end CreditRoll
