import ChatGateway.EventStream
import Mathlib.Tactic.SplitIfs

namespace ChatGateway

namespace Text.Utf8

theorem run_append (s : State) (bs cs : List UInt8) :
    run s (bs ++ cs) = ((run s bs).1 ++ (run (run s bs).2 cs).1, (run (run s bs).2 cs).2) := by
  induction bs generalizing s with
  | nil => simp [run]
  | cons b bs ih => simp only [List.cons_append, run, ih, List.append_assoc]

theorem start_some {b : UInt8} {c : Char} (h : (start b).2 = some c) : (start b).1 = .whole := by
  unfold start at h ⊢
  by_cases hb : b < 0x80
  · rw [if_pos hb]
  · rw [if_neg hb] at h
    split_ifs at h

theorem step_some {s : State} {b : UInt8} {c : Char} (h : (step s b).2 = some c) :
    (step s b).1 = .whole := by
  cases s with
  | whole => exact start_some h
  | malformed width => simp [step] at h
  | within bits seen missing low high =>
    simp only [step] at h ⊢
    split_ifs at h ⊢ with hb
    match missing with
    | 0 | 1 => rfl
    | missing + 2 => simp at h

end Text.Utf8

namespace Text.Lines

def run (s : State) : List Char → List (List Char) × State
  | [] => ([], s)
  | c :: cs =>
    let (s, line) := step s c
    let (lines, s) := run s cs
    (line.toList ++ lines, s)

theorem run_append (s : State) (cs ds : List Char) :
    run s (cs ++ ds) = ((run s cs).1 ++ (run (run s cs).2 ds).1, (run (run s cs).2 ds).2) := by
  induction cs generalizing s with
  | nil => simp [run]
  | cons c cs ih => simp only [List.cons_append, run, ih, List.append_assoc]

end Text.Lines

namespace EventStream

open Text

def gather (data : List Char) : List (List Char) → List (List Char) × List Char
  | [] => ([], data)
  | line :: lines =>
    let (data, payload) := collect data line
    let (payloads, data) := gather data lines
    (payload.toList ++ payloads, data)

theorem gather_append (data : List Char) (ls ms : List (List Char)) :
    gather data (ls ++ ms) =
      ((gather data ls).1 ++ (gather (gather data ls).2 ms).1, (gather (gather data ls).2 ms).2) := by
  induction ls generalizing data with
  | nil => simp [gather]
  | cons l ls ih => simp only [List.cons_append, gather, ih, List.append_assoc]

namespace State

def feedText (s : State) (cs : List Char) : State × List (List Char) :=
  let (lines, state) := Lines.run s.lines cs
  let (payloads, data) := gather s.data lines
  (⟨s.bytes, state, data⟩, payloads)

theorem feedText_append (s : State) (cs ds : List Char) :
    s.feedText (cs ++ ds) =
      (((s.feedText cs).1.feedText ds).1, (s.feedText cs).2 ++ ((s.feedText cs).1.feedText ds).2) := by
  simp only [feedText, Lines.run_append, gather_append]

theorem takeByte_eq (s : State) (b : UInt8) :
    ((s.takeByte b).1, (s.takeByte b).2.toList) =
      { s with bytes := (Utf8.step s.bytes b).1 }.feedText (Utf8.step s.bytes b).2.toList := by
  rcases hu : Utf8.step s.bytes b with ⟨u, _ | c⟩
  · simp [takeByte, hu, feedText, Lines.run, gather]
  rcases hl : Lines.step s.lines c with ⟨l, _ | line⟩
  · simp [takeByte, takeChar, hu, hl, feedText, Lines.run, gather]
  · simp [takeByte, takeChar, takeLine, hu, hl, feedText, Lines.run, gather]

theorem feed_stages (s : State) (bs : List UInt8) :
    s.feed bs = { s with bytes := (Utf8.run s.bytes bs).2 }.feedText (Utf8.run s.bytes bs).1 := by
  induction bs generalizing s with
  | nil => rfl
  | cons b bs ih =>
    obtain ⟨hstate, hpayload⟩ := Prod.mk.inj (takeByte_eq s b)
    simp only [feed, Utf8.run, ih, feedText_append, hstate, hpayload]
    rfl

end State

end EventStream

end ChatGateway
