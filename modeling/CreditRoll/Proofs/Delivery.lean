import CreditRoll.Credit.Order
import CreditRoll.Credit.Report

namespace CreditRoll

namespace Sink

variable {s : Sink} {more : List UInt8}

theorem put_of_room (h : more.length ≤ s.room) :
    s.put more = .ok ⟨s.room - more.length, s.bytes ++ more⟩ := if_pos h

theorem put_of_lt (h : s.room < more.length) :
    s.put more = .error ⟨0, s.bytes ++ more.take s.room⟩ := if_neg (Nat.not_le_of_lt h)

theorem put_nil (s : Sink) : s.put [] = .ok s := by
  rw [put_of_room (Nat.zero_le _), List.append_nil]
  rfl

/-- It makes no difference whether bytes come all at once or in two parts. -/
theorem put_append (s : Sink) (first second : List UInt8) :
    (s.put first >>= fun s ↦ s.put second) = s.put (first ++ second) := by
  by_cases hf : first.length ≤ s.room
  · have hb : (s.put first >>= fun s ↦ s.put second) =
        put ⟨s.room - first.length, s.bytes ++ first⟩ second := by
      rw [put_of_room hf]
      rfl
    rw [hb]
    by_cases hs : first.length + second.length ≤ s.room
    · rw [put_of_room (by simp only; omega), put_of_room (by simpa using hs)]
      simp only [List.length_append, List.append_assoc, Nat.sub_sub]
    · rw [put_of_lt (by simp only; omega), put_of_lt (by simpa using hs)]
      simp only [List.take_append, List.take_of_length_le hf, List.append_assoc]
  · have hf : s.room < first.length := Nat.lt_of_not_le hf
    have hb : s.room < (first ++ second).length := by
      rw [List.length_append]
      omega
    rw [put_of_lt hf, put_of_lt hb, List.take_append_of_le_length (Nat.le_of_lt hf)]
    rfl

end Sink

namespace Report

open Text.Utf8 (encode)

def bytes (style : Style) (credits : List Credit) : List UInt8 :=
  (lines style credits).flatMap fun line ↦ encode line.toList ++ [0x0A]

theorem writeLine_eq (s : Sink) (line : String) :
    writeLine s line = s.put (encode line.toList ++ [0x0A]) := s.put_append _ _

variable (s : Sink) (style : Style) (credits : List Credit)

/-- Line by line, the report goes into a sink as its bytes do. -/
theorem write_eq_put : write s style credits = s.put (bytes style credits) := by
  rw [write, bytes]
  induction lines style credits generalizing s with
  | nil => exact s.put_nil.symm
  | cons line lines ih =>
    have hw : (fun s ↦ lines.foldlM writeLine s) =
        fun s : Sink ↦ s.put (lines.flatMap fun line ↦ encode line.toList ++ [0x0A]) := funext ih
    rw [List.foldlM_cons, writeLine_eq, hw, Sink.put_append, List.flatMap_cons]

theorem deliver_of_room {s : Sink} (h : (bytes style credits).length ≤ s.room) :
    deliver s style credits =
      (.ok (), ⟨s.room - (bytes style credits).length, s.bytes ++ bytes style credits⟩) := by
  rw [deliver, write_eq_put, Sink.put_of_room h]

theorem deliver_of_lt {s : Sink} (h : s.room < (bytes style credits).length) :
    deliver s style credits =
      (.error .outputFull, ⟨0, s.bytes ++ (bytes style credits).take s.room⟩) := by
  rw [deliver, write_eq_put, Sink.put_of_lt h]

theorem bytes_cases : bytes style credits = [] ∨ ∃ front, bytes style credits = front ++ [0x0A] := by
  rw [bytes]
  rcases List.eq_nil_or_concat (lines style credits) with h | ⟨lines, line, h⟩
  · left
    rw [h]
    rfl
  · right
    refine ⟨(lines.flatMap fun line ↦ encode line.toList ++ [0x0A]) ++ encode line.toList, ?_⟩
    rw [h, List.concat_eq_append, List.flatMap_append, List.flatMap_singleton, List.append_assoc]

/-- A sink takes the bytes of a report from the first on for as long as there is room for them, and
it is a failure if there is not room for all of them. -/
theorem deliver_fills (style : Style) (order : Order) (credits : List Credit) (capacity : Nat) :
    let sorted := order.arrange credits
    let whole := (lines style sorted).flatMap fun line ↦ encode line.toList ++ [0x0A]
    let out := deliver ⟨capacity, []⟩ style sorted
    out.2.bytes = whole.take (min capacity whole.length) ∧
    (out.1 = .error .outputFull ↔ capacity < whole.length) ∧
    (out.1 = .ok () ↔ whole.length ≤ capacity) ∧
    (capacity = whole.length → out.1 = .ok () ∧ out.2.bytes = whole) ∧
    (capacity + 1 = whole.length →
      out.1 = .error .outputFull ∧ whole = out.2.bytes ++ [0x0A]) := by
  intro sorted whole out
  by_cases h : whole.length ≤ capacity
  · have hout : out = (.ok (), ⟨capacity - whole.length, whole⟩) := deliver_of_room style sorted h
    rw [hout, Nat.min_eq_right h, List.take_length]
    refine ⟨rfl, ?_, ?_, ?_, ?_⟩
    · simpa using h
    · simpa using h
    · intro _
      exact ⟨rfl, rfl⟩
    · intro hone
      omega
  · have hlt : capacity < whole.length := Nat.lt_of_not_le h
    have hout : out = (.error .outputFull, ⟨0, whole.take capacity⟩) :=
      deliver_of_lt style sorted hlt
    rw [hout, Nat.min_eq_left (Nat.le_of_lt hlt)]
    refine ⟨rfl, ?_, ?_, ?_, ?_⟩
    · simpa using hlt
    · simpa using hlt
    · intro he
      omega
    · intro hone
      rcases bytes_cases style sorted with hnil | ⟨front, hfront⟩
      · have hzero : whole.length = 0 := congrArg List.length hnil
        omega
      · have hfront : whole = front ++ [0x0A] := hfront
        have hlen : front.length = capacity := by
          rw [hfront, List.length_append, List.length_singleton] at hone
          omega
        refine ⟨rfl, ?_⟩
        rw [hfront, ← hlen, List.take_left]

theorem deliver_fills_accented :
    let credits : List Credit := [⟨"mona", "É", "m", 2⟩]
    let out (capacity : Nat) := deliver ⟨capacity, []⟩ .plain credits
    (out 5).1 = .ok () ∧ (out 4).1 = .error .outputFull ∧
      (out 4).2.bytes ++ [0x0A] = [0x2A, 0x20, 0xC3, 0x89, 0x0A] ∧
      (out 3).2.bytes = [0x2A, 0x20, 0xC3] := by
  intro credits out
  have h₅ := deliver_fills .plain .listed credits 5
  have h₄ := deliver_fills .plain .listed credits 4
  have h₃ := deliver_fills .plain .listed credits 3
  refine ⟨(h₅.2.2.2.1 (by decide)).1, (h₄.2.2.2.2 (by decide)).1, ?_, ?_⟩
  · exact (h₄.2.2.2.2 (by decide)).2.symm.trans (by decide)
  · exact h₃.1.trans (by decide)

end Report

end CreditRoll
