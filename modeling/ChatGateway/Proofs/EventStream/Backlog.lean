import ChatGateway.Proofs.EventStream.Stages
import Mathlib.Data.Nat.Find

/-!
A reader of event streams that takes each piece as a whole. What it cannot use yet it keeps: bytes after the last whole
character, characters after the last whole line, the data of an event that has begun. It gives the items of the reader
that takes one byte at a time.
-/

namespace ChatGateway

namespace Text.Utf8

def validLength (bs : List UInt8) : Nat :=
  Nat.findGreatest (fun k => (decode? (bs.take k)).isSome) bs.length

def leadingText (bs : List UInt8) : List Char × List UInt8 :=
  ((decode? (bs.take (validLength bs))).getD [], bs.drop (validLength bs))

theorem decode?_eq_some {bs : List UInt8} {cs : List Char} :
    decode? bs = some cs ↔ run .whole bs = (cs, .whole) := by
  unfold decode?
  rcases run .whole bs with ⟨ds, _ | _ | _⟩ <;> simp

theorem decode?_validLength (bs : List UInt8) : (decode? (bs.take (validLength bs))).isSome := by
  refine Nat.findGreatest_spec (P := fun k => (decode? (bs.take k)).isSome) (Nat.zero_le _) ?_
  simp [decode?, run]

theorem run_take_validLength (bs : List UInt8) :
    run .whole (bs.take (validLength bs)) = ((leadingText bs).1, .whole) := by
  obtain ⟨cs, h⟩ := Option.isSome_iff_exists.mp (decode?_validLength bs)
  rw [← decode?_eq_some, h, leadingText, h, Option.getD_some]

theorem exists_whole_of_run_ne_nil {s : State} {bs : List UInt8} (h : (run s bs).1 ≠ []) :
    ∃ k, 0 < k ∧ k ≤ bs.length ∧ (run s (bs.take k)).2 = .whole := by
  induction bs generalizing s with
  | nil => simp [run] at h
  | cons b bs ih =>
    cases hc : (step s b).2 with
    | some c => exact ⟨1, by omega, by simp, by simpa [run] using step_some hc⟩
    | none =>
      obtain ⟨k, _, hk, hw⟩ := ih (s := (step s b).1) (by simpa [run, hc] using h)
      exact ⟨k + 1, by omega, by simpa using hk, by simpa [run] using hw⟩

theorem run_drop_validLength (bs : List UInt8) : (run .whole (leadingText bs).2).1 = [] := by
  -- One more character would make a longer valid beginning.
  by_contra h
  obtain ⟨k, hpos, hk, hw⟩ := exists_whole_of_run_ne_nil h
  simp only [leadingText, List.length_drop] at hk hw
  have htake : bs.take (validLength bs + k) =
      bs.take (validLength bs) ++ (bs.drop (validLength bs)).take k := List.take_add
  have hsome : (decode? (bs.take (validLength bs + k))).isSome := by
    rw [htake, decode?, run_append, run_take_validLength]
    simp [hw]
  have hle := Nat.le_findGreatest (P := fun k => (decode? (bs.take k)).isSome)
    (show validLength bs + k ≤ bs.length by omega) hsome
  change validLength bs + k ≤ validLength bs at hle
  omega

theorem run_eq_leadingText (bs : List UInt8) :
    run .whole bs = ((leadingText bs).1, (run .whole (leadingText bs).2).2) := by
  have h := run_append .whole (bs.take (validLength bs)) (bs.drop (validLength bs))
  rw [List.take_append_drop, run_take_validLength] at h
  rw [h]
  change (_ ++ (run .whole (leadingText bs).2).1, _) = _
  rw [run_drop_validLength, List.append_nil]
  rfl

end Text.Utf8

namespace Text.Lines

def ofText : List Char → List (List Char) × List Char
  | [] => ([], [])
  | ['\r'] => ([], ['\r'])
  | '\r' :: '\n' :: cs => let (lines, rest) := ofText cs; ([] :: lines, rest)
  | c :: cs =>
    if c = '\n' ∨ c = '\r' then let (lines, rest) := ofText cs; ([] :: lines, rest)
    else
      match ofText cs with
      | ([], rest) => ([], c :: rest)
      | (line :: lines, rest) => ((c :: line) :: lines, rest)

theorem run_begun (line before : List Char) (returned : Bool) (cs : List Char) :
    run ⟨line ++ before, returned⟩ cs =
      match run ⟨line, returned⟩ cs with
      | ([], s) => ([], ⟨s.line ++ before, s.returned⟩)
      | (first :: lines, s) => ((before.reverse ++ first) :: lines, s) := by
  induction cs generalizing line returned with
  | nil => simp [run]
  | cons c cs ih =>
    cases returned with
    | true => by_cases hn : c = '\n' <;> simp [run, step, hn]
    | false =>
      by_cases hn : c = '\n'
      · simp [run, step, advance, hn]
      · by_cases hr : c = '\r'
        · simpa [run, step, advance, hr] using ih line true
        · simpa [run, step, advance, hn, hr] using ih (c :: line) false

theorem run_lineFeed (cs : List Char) :
    run .fresh ('\n' :: cs) = ([] :: (run .fresh cs).1, (run .fresh cs).2) := rfl

theorem run_return_lineFeed (cs : List Char) :
    run .fresh ('\r' :: '\n' :: cs) = ([] :: (run .fresh cs).1, (run .fresh cs).2) := rfl

theorem run_return {c : Char} (cs : List Char) (hc : c ≠ '\n') :
    run .fresh ('\r' :: c :: cs) = ([] :: (run .fresh (c :: cs)).1, (run .fresh (c :: cs)).2) := by
  by_cases hr : c = '\r' <;> simp [run, step, advance, State.fresh, hc, hr]

theorem run_plain {c : Char} (cs : List Char) (hc : ¬(c = '\n' ∨ c = '\r')) :
    run .fresh (c :: cs) =
      match run .fresh cs with
      | ([], s) => ([], ⟨s.line ++ [c], s.returned⟩)
      | (first :: lines, s) => ((c :: first) :: lines, s) := by
  have h := run_begun [] [c] false cs
  rw [not_or] at hc
  simpa [run, step, advance, State.fresh, hc] using h

theorem run_ofText (cs : List Char) :
    run .fresh cs = ((ofText cs).1, (run .fresh (ofText cs).2).2) ∧ (run .fresh (ofText cs).2).1 = [] := by
  fun_induction ofText cs with
  | case1 => exact ⟨rfl, rfl⟩
  | case2 => exact ⟨rfl, rfl⟩
  | case3 cs lines rest h ih =>
    obtain ⟨hrun, hrest⟩ := h ▸ ih
    exact ⟨by rw [run_return_lineFeed, hrun], hrest⟩
  -- A return that is last, or before a line feed, has been dealt with above.
  | case4 c cs hlast hpair h lines rest hcs ih =>
    obtain ⟨hrun, hrest⟩ := hcs ▸ ih
    refine ⟨?_, hrest⟩
    rcases h with rfl | rfl
    · rw [run_lineFeed, hrun]
    cases cs with
    | nil => exact absurd rfl (hlast rfl)
    | cons d cs =>
      have hd : d ≠ '\n' := fun hd => hpair cs rfl (hd ▸ rfl)
      rw [run_return cs hd, hrun]
  | case5 c cs _ _ h rest hcs ih =>
    obtain ⟨hrun, hrest⟩ := hcs ▸ ih
    rw [run_plain cs h, run_plain rest h, hrun]
    rcases hs : run .fresh rest with ⟨lines, s⟩
    obtain rfl : lines = [] := by simpa [hs] using hrest
    exact ⟨rfl, rfl⟩
  | case6 c cs _ _ h line lines rest hcs ih =>
    obtain ⟨hrun, hrest⟩ := hcs ▸ ih
    exact ⟨by rw [run_plain cs h, hrun], hrest⟩

end Text.Lines

namespace EventStream

open Text

structure Backlog where
  bytes : List UInt8
  text : List Char
  data : List Char

namespace Backlog

def empty : Backlog := ⟨[], [], []⟩

def read (b : Backlog) (piece : List UInt8) : Backlog × List (List Char) :=
  let (text, bytes) := Utf8.leadingText (b.bytes ++ piece)
  let (lines, text) := Lines.ofText (b.text ++ text)
  let (payloads, data) := gather b.data lines
  (⟨bytes, text, data⟩, payloads)

def ending (b : Backlog) : List Item :=
  match Utf8.run .whole b.bytes with
  | (_, .whole) => []
  | (_, .within ..) => [.error (.interrupted .unfinishedCharacter)]
  | (_, .malformed width) => [.error (.interrupted (.badCharacter width))]

def items (b : Backlog) : List Piece → List Item
  | [] => b.ending
  | .failure reason :: _ => [.error (.interrupted reason)]
  | .bytes piece :: pieces => deliver ((b.read piece).1.items pieces) (b.read piece).2

structure Settled (b : Backlog) : Prop where
  bytes : (Utf8.run .whole b.bytes).1 = []
  text : (Lines.run .fresh b.text).1 = []

def state (b : Backlog) : State where
  bytes := (Utf8.run .whole b.bytes).2
  lines := (Lines.run .fresh b.text).2
  data := b.data

theorem settled_empty : empty.Settled := ⟨rfl, rfl⟩

theorem ending_eq (b : Backlog) : b.ending = b.state.ending := by
  unfold ending State.ending state
  rcases Utf8.run .whole b.bytes with ⟨_, _ | _ | _⟩ <;> rfl

theorem settled_read (b : Backlog) (piece : List UInt8) : (b.read piece).1.Settled where
  bytes := Utf8.run_drop_validLength _
  text := (Lines.run_ofText _).2

theorem feed_eq_read {b : Backlog} (h : b.Settled) (piece : List UInt8) :
    b.state.feed piece = ((b.read piece).1.state, (b.read piece).2) := by
  have hbytes : Utf8.run b.state.bytes piece = Utf8.run .whole (b.bytes ++ piece) := by
    rw [Utf8.run_append, h.bytes]
    rfl
  have htext (cs : List Char) : Lines.run b.state.lines cs = Lines.run .fresh (b.text ++ cs) := by
    rw [Lines.run_append, h.text]
    rfl
  rw [State.feed_stages, hbytes, Utf8.run_eq_leadingText]
  simp only [State.feedText, htext]
  rw [(Lines.run_ofText _).1]
  rfl

theorem items_eq {b : Backlog} (h : b.Settled) (pieces : List Piece) : b.items pieces = b.state.items pieces := by
  induction pieces generalizing b with
  | nil => exact b.ending_eq
  | cons piece pieces ih =>
    cases piece with
    | failure reason => rfl
    | bytes piece =>
      have hfeed := feed_eq_read h piece
      simp only [items, State.items, hfeed, ih (b.settled_read piece)]

end Backlog

end EventStream

end ChatGateway
