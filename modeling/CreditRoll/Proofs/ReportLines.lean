import CreditRoll.Proofs.Credits
import CreditRoll.Proofs.Delivery
import Mathlib.Data.List.Dedup

namespace CreditRoll

theorem length_splitOn (c : Char) (s : List Char) : (s.splitOn c).length = s.count c + 1 := by
  induction s with
  | nil => rfl
  | cons d s ih =>
    rw [List.splitOn_cons_eq_if_modifyHead, List.count_cons]
    split
    · rw [List.length_cons, ih]
    · rw [List.length_modifyHead, ih, Nat.add_zero]

namespace Report

open Text.Utf8 (encode)

variable (style : Style) (credits : List Credit)

theorem toList_text_cons (credit : Credit) :
    (text style (credit :: credits)).toList =
      (style.render credit).toList ++ '\n' :: (text style credits).toList := by
  have hn : "\n".toList = ['\n'] := rfl
  rw [text, lines, List.map_cons, List.map_cons, String.join_cons, String.toList_append,
    String.toList_append, hn, List.append_assoc]
  rfl

theorem encode_text : encode (text style credits).toList = bytes style credits := by
  induction credits with
  | nil => rfl
  | cons credit credits ih =>
    rw [toList_text_cons, List.append_cons, encode, List.flatMap_append, List.flatMap_append]
    exact congrArg (encode (style.render credit).toList ++ [0x0A] ++ ·) ih

/-- A sink with room for the whole report takes all of it. -/
theorem write_of_room {s : Sink} (h : (encode (text style credits).toList).length ≤ s.room) :
    write s style credits = .ok ⟨s.room - (encode (text style credits).toList).length,
      s.bytes ++ encode (text style credits).toList⟩ := by
  rw [encode_text] at h ⊢
  rw [write_eq_put]
  exact Sink.put_of_room h

theorem splitOn_text :
    (text style credits).toList.splitOn '\n' =
      (lines style credits).flatMap (·.toList.splitOn '\n') ++ [[]] := by
  induction credits with
  | nil => rfl
  | cons credit credits ih =>
    rw [toList_text_cons, List.splitOn_append_cons_self, ih, ← List.append_assoc]
    rfl

theorem count_text :
    (text style credits).toList.count '\n' =
      credits.length + ((lines style credits).map (·.toList.count '\n')).sum := by
  induction credits with
  | nil => rfl
  | cons credit credits ih =>
    rw [toList_text_cons, List.count_append, List.count_cons_self, ih]
    simp only [lines, List.map_cons, List.sum_cons, List.length_cons]
    omega

theorem getLast?_text (h : (text style credits).toList ≠ []) :
    (text style credits).toList.getLast? = some '\n' := by
  induction credits with
  | nil => exact absurd rfl h
  | cons credit credits ih =>
    rw [toList_text_cons, List.getLast?_append_of_ne_nil _ (List.cons_ne_nil _ _)]
    by_cases ht : (text style credits).toList = []
    · rw [ht]
      rfl
    · rw [List.getLast?_cons_of_ne_nil ht]
      exact ih ht

theorem newline_mem_render (credit : Credit) :
    '\n' ∈ (style.render credit).toList ↔ ∃ t ∈ style.shown credit, '\n' ∈ t.toList := by
  cases style <;> simp [Style.render, Style.shown]

/-- Nothing that the report shows has a line break of its own. -/
def Unbroken : Prop := ∀ credit ∈ credits, ∀ t ∈ style.shown credit, '\n' ∉ t.toList

theorem unbroken_iff :
    Unbroken style credits ↔ ∀ line ∈ lines style credits, '\n' ∉ line.toList := by
  simp only [Unbroken, lines, List.forall_mem_map, newline_mem_render, not_exists, not_and]

theorem count_text_eq_length_iff :
    (text style credits).toList.count '\n' = credits.length ↔ Unbroken style credits := by
  rw [count_text, Nat.add_eq_left, List.sum_eq_zero_iff_forall_eq_nat, List.forall_mem_map,
    unbroken_iff]
  simp only [List.count_eq_zero]

theorem splitOn_text_eq_lines_iff :
    (text style credits).toList.splitOn '\n' = (lines style credits).map (·.toList) ++ [[]] ↔
      Unbroken style credits := by
  constructor
  · intro h
    have hl := congrArg List.length h
    rw [length_splitOn] at hl
    apply (count_text_eq_length_iff style credits).1
    simpa [lines] using hl
  · intro h
    rw [splitOn_text, List.append_cancel_right_eq, List.map_eq_flatMap]
    apply List.flatMap_congr
    intro line hm
    exact List.splitOn_eq_singleton ((unbroken_iff style credits).1 h line hm)

end Report

namespace Credit

theorem newline_notMem_ofProfile {entry : Entry} {profile : Profile}
    (hl : '\n' ∉ entry.login.toList) (he : ∀ url ∈ entry.url, '\n' ∉ url.toList)
    (hn : ∀ name ∈ profile.name, '\n' ∉ name.toList) (hp : '\n' ∉ profile.url.toList)
    (style : Style) : ∀ t ∈ style.shown (ofProfile entry profile), '\n' ∉ t.toList := by
  have hname : '\n' ∉ (nameFor entry profile).toList := by
    unfold nameFor
    split
    · next name hs =>
      split
      · exact hl
      · exact hn name hs
    · exact hl
  have hurl : '\n' ∉ (urlFor entry profile).toList := by
    unfold urlFor
    split
    · cases hu : entry.url with
      | none => simpa using hl
      | some url => exact he url hu
    · exact hp
  cases style <;> simp [Style.shown, ofProfile, hname, hurl, hl]

end Credit

namespace Collection

variable {σ : Type}

theorem length_firstListed (entries : List Entry) :
    (firstListed entries).length = (entries.map (·.login)).dedup.length := by
  have hp : ((firstListed entries).map (·.login)).Perm (entries.map (·.login)).dedup := by
    rw [List.perm_ext_iff_of_nodup (nodup_firstListed entries) (List.nodup_dedup _)]
    intro login
    rw [firstListed_eq_fresh, mem_logins_fresh, List.mem_dedup]
    simp
  simpa using hp.length_eq

/-- A report has a line for each login that is listed, and every line ends in a line break. The
line breaks tell the lines apart, and are as many as the logins, if and only if nothing that is
shown has one of its own; nothing has if no login, name or address that is given has one. -/
theorem collect_line_for_each_login {d : Directory σ} {repository : Repository} {order : Order}
    {s : σ} {credits : List Credit} (h : (collect d repository order s).1 = .ok credits)
    (style : Style) :
    ∃ entries, (d.list repository.owner repository.name s).1 = .ok entries ∧
      let logins := (entries.map (·.login)).dedup
      let lines := (Report.lines style credits).map (·.toList)
      let text := (Report.text style credits).toList
      lines.length = logins.length ∧ (text ≠ [] → text.getLast? = some '\n') ∧
      (text.count '\n' = logins.length ↔ Report.Unbroken style credits) ∧
      (text.splitOn '\n' = lines ++ [[]] ↔ Report.Unbroken style credits) ∧
      ((∀ entry ∈ entries,
          '\n' ∉ entry.login.toList ∧ ∀ url ∈ entry.url, '\n' ∉ url.toList) →
        (∀ login t p, (d.profile login t).1 = .ok p →
          (∀ name ∈ p.name, '\n' ∉ name.toList) ∧ '\n' ∉ p.url.toList) →
        Report.Unbroken style credits) ∧
      ∀ sink : Sink, (Text.Utf8.encode text).length ≤ sink.room →
        Report.write sink style credits =
          .ok ⟨sink.room - (Text.Utf8.encode text).length, sink.bytes ++ Text.Utf8.encode text⟩ := by
  obtain ⟨entries, told, hl, hg, rfl⟩ := collect_given h
  have hlen : (order.arrange told).length = (entries.map (·.login)).dedup.length := by
    rw [(arrange_perm order told).length_eq, ← hg.length_eq, length_firstListed]
  refine ⟨entries, hl, ?_, Report.getLast?_text style _, ?_,
    Report.splitOn_text_eq_lines_iff style _, ?_, fun sink ↦ Report.write_of_room style _⟩
  · simpa [Report.lines] using hlen
  · rw [← hlen]
    exact Report.count_text_eq_length_iff style _
  · intro he hp credit hc
    obtain ⟨entry, hm, p, t, hpt, rfl⟩ := exists_given hg hc
    obtain ⟨hlogin, hurl⟩ := he entry (mem_of_mem_firstListed hm)
    obtain ⟨hn, hu⟩ := hp entry.login t p hpt
    exact Credit.newline_notMem_ofProfile hlogin hurl hn hu style

theorem collect_line_for_each_login_mona :
    let repository : Repository := ⟨"o", "r", by decide, by decide⟩
    let entries : List Entry := [⟨"mona", 2, some "m"⟩, ⟨"hubot", 1, none⟩, ⟨"mona", 1, none⟩]
    let d := answering (.ok entries) fun _ ↦ .ok ⟨some "É\r", ""⟩
    let credits : List Credit :=
      [⟨"mona", "É\r", "m", 2⟩, ⟨"hubot", "É\r", "https://github.com/hubot", 1⟩]
    (collect d repository .listed ⟨[], []⟩).1 = .ok credits ∧
      (Report.text .link credits).toList.count '\n' = 2 := by
  intro repository entries d credits
  have hc : (collect d repository .listed ⟨[], []⟩).1 = .ok credits := rfl
  obtain ⟨listed, hl, -, -, hn, -, hu, -⟩ := collect_line_for_each_login hc .link
  cases hl
  refine ⟨hc, hn.2 (hu (by decide) ?_)⟩
  intro login t p hp
  cases hp
  decide

/-- A name may hold a line break, which goes into the report as it is. -/
theorem collect_broken_line :
    let repository : Repository := ⟨"o", "r", by decide, by decide⟩
    let entries : List Entry := [⟨"mona", 2, none⟩]
    let profile : Profile := ⟨some "Mona\nLisa", "m"⟩
    let credits : List Credit := [⟨"mona", "Mona\nLisa", "m", 2⟩]
    Github.Wire.profile? (Text.Utf8.encode (Json.write profile.json)) = some profile ∧
      (collect (answering (.ok entries) fun _ ↦ .ok profile) repository .listed ⟨[], []⟩).1 =
        .ok credits ∧
      Report.text .plain credits = "* Mona\nLisa\n" ∧
      (Report.text .plain credits).toList.count '\n' ≠ (entries.map (·.login)).dedup.length := by
  intro repository entries profile credits
  exact ⟨Github.Wire.profile?_encode (Json.isText_write profile.proper_json), rfl, rfl, by decide⟩

end Collection

end CreditRoll
