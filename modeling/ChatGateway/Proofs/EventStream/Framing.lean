import ChatGateway.Proofs.EventStream.Pieces
import ChatGateway.Proofs.Text.Encoding
import ChatGateway.Proofs.Text.Trimming
import ChatGateway.Text.Split

namespace ChatGateway

namespace Text

structure Unbroken (text : List Char) : Prop where
  lineFeed : '\n' ∉ text
  carriageReturn : '\r' ∉ text

instance : DecidablePred Unbroken := fun text =>
  decidable_of_iff ('\n' ∉ text ∧ '\r' ∉ text) ⟨fun h => ⟨h.1, h.2⟩, fun h => ⟨h.1, h.2⟩⟩

inductive LineEnd where
  | lineFeed
  | returnLineFeed
deriving DecidableEq, Repr

def LineEnd.chars : LineEnd → List Char
  | .lineFeed => ['\n']
  | .returnLineFeed => ['\r', '\n']

def LineEnd.ended (e : LineEnd) (lines : List (List Char)) : List Char :=
  lines.flatMap (· ++ e.chars)

namespace Lines

theorem run_unbroken {line : List Char} (h : Unbroken line) (e : LineEnd) (before rest : List Char) :
    run ⟨before, false⟩ (line ++ e.chars ++ rest) =
      ((before.reverse ++ line) :: (run .fresh rest).1, (run .fresh rest).2) := by
  induction line generalizing before with
  | nil =>
    cases e with
    | lineFeed => simp [LineEnd.chars, run, step, advance, State.fresh]
    | returnLineFeed => simp [LineEnd.chars, run, step, advance, State.fresh]
  | cons c line ih =>
    have hlf := h.lineFeed
    have hcr := h.carriageReturn
    rw [List.mem_cons, not_or] at hlf hcr
    have hstep : step ⟨before, false⟩ c = (⟨c :: before, false⟩, none) := by
      simp [step, advance, Ne.symm hlf.1, Ne.symm hcr.1]
    have hline := ih ⟨hlf.2, hcr.2⟩ (c :: before)
    simp only [List.cons_append, run, hstep, hline]
    simp

theorem run_ended {lines : List (List Char)} (h : ∀ line ∈ lines, Unbroken line) (e : LineEnd) :
    run .fresh (e.ended lines) = (lines, .fresh) := by
  induction lines with
  | nil => rfl
  | cons line lines ih =>
    have hline := run_unbroken (h line List.mem_cons_self) e [] (e.ended lines)
    have hlines := ih fun l hl => h l (List.mem_cons_of_mem _ hl)
    rw [LineEnd.ended, List.flatMap_cons]
    exact hline.trans (by rw [hlines]; rfl)

end Lines

theorem flatMap_split (sep : Char) (s : List Char) : (split (· == sep) s).flatMap (· ++ [sep]) = s ++ [sep] := by
  induction s with
  | nil => rfl
  | cons c s ih =>
    by_cases hc : c = sep
    · simp [split, hc, ih]
    · cases hsplit : split (· == sep) s with
      | nil => simp [hsplit] at ih
      | cons part parts =>
        rw [hsplit] at ih
        simpa [split, hc, hsplit] using ih

theorem mem_split {set : Char → Bool} {s part : List Char} (h : part ∈ split set s) {c : Char} (hc : c ∈ part) :
    c ∈ s ∧ set c = false := by
  induction s generalizing part with
  | nil =>
    obtain rfl : part = [] := by simpa [split] using h
    simp at hc
  | cons d s ih =>
    unfold split at h
    split at h
    · rcases List.mem_cons.mp h with rfl | h
      · simp at hc
      · exact (ih h hc).imp_left (List.mem_cons_of_mem _)
    next hd =>
      have hd : set d = false := by simpa using hd
      split at h
      next first parts hsplit =>
        rcases List.mem_cons.mp h with rfl | h
        · rcases List.mem_cons.mp hc with rfl | hc
          · exact ⟨List.mem_cons_self, hd⟩
          · exact (ih (hsplit ▸ List.mem_cons_self) hc).imp_left (List.mem_cons_of_mem _)
        · exact (ih (hsplit ▸ List.mem_cons_of_mem _ h) hc).imp_left (List.mem_cons_of_mem _)
      · obtain rfl : part = [d] := by simpa using h
        obtain rfl : c = d := by simpa using hc
        exact ⟨List.mem_cons_self, hd⟩

end Text

namespace EventStream

open Text

def dataField : List Char := "data".toList

/-- A comment, which begins with a colon, or a line of another field than that of the data. -/
structure Aside (line : List Char) : Prop where
  nonempty : line ≠ []
  unbroken : Unbroken line
  other : line.takeWhile (· ≠ ':') ≠ dataField

instance : DecidablePred Aside := fun line =>
  decidable_of_iff (line ≠ [] ∧ Unbroken line ∧ line.takeWhile (· ≠ ':') ≠ dataField)
    ⟨fun h => ⟨h.1, h.2.1, h.2.2⟩, fun h => ⟨h.1, h.2, h.3⟩⟩

def event (payload : List Char) : List (List Char) :=
  (split (· == '\n') payload).map ("data: ".toList ++ ·) ++ [[]]

inductive Answered : List (List Char) → List Item → Prop
  | nothing : Answered [] []
  | blank {payload : List Char} {payloads : List (List Char)} {items : List Item} (trims : TrimsTo payload [])
      (rest : Answered payloads items) : Answered (payload :: payloads) items
  | done {payload : List Char} {payloads : List (List Char)} (trims : TrimsTo payload doneMark.toList) :
    Answered (payload :: payloads) []
  | chunk {payload core : List Char} {payloads : List (List Char)} {c : Chunk} {items : List Item}
      (trims : TrimsTo payload core) (read : Chunk.reader.ofText (String.ofList core) = .ok c)
      (rest : Answered payloads items) : Answered (payload :: payloads) (.ok c :: items)
  | unreadable {payload core : List Char} {payloads : List (List Char)} {e : Json.ReadError}
      (trims : TrimsTo payload core) (visible : core ≠ []) (unmarked : core ≠ doneMark.toList)
      (read : Chunk.reader.ofText (String.ofList core) = .error e) :
    Answered (payload :: payloads) [.error (.obscure (.document e))]

theorem takeWhile_of_dataValue? {line value : List Char} (h : dataValue? line = some value) :
    line.takeWhile (· ≠ ':') = dataField := by
  unfold dataValue? at h
  split at h
  next rest =>
    split at h
    · rfl
    · rfl
    · rfl
    · cases h
  · cases h

theorem Aside.collect_eq {line : List Char} (h : Aside line) (data : List Char) : collect data line = (data, none) := by
  have hvalue : dataValue? line = none := by
    rw [Option.eq_none_iff_forall_ne_some]
    intro value hvalue
    exact h.other (takeWhile_of_dataValue? hvalue)
  rw [collect, if_neg h.nonempty, hvalue]
  simp

theorem unbroken_of_mem_event {payload line : List Char} (h : '\r' ∉ payload) (hline : line ∈ event payload) :
    Unbroken line := by
  rcases List.mem_append.mp hline with hline | hline
  · obtain ⟨part, hpart, rfl⟩ := List.mem_map.mp hline
    have hmem : ∀ c ∈ part, c ∈ payload ∧ (c == '\n') = false := fun c hc => mem_split hpart hc
    constructor
    · rw [List.mem_append, not_or]
      exact ⟨by decide, fun hc => by simpa using (hmem _ hc).2⟩
    · rw [List.mem_append, not_or]
      exact ⟨by decide, fun hc => h (hmem _ hc).1⟩
  · obtain rfl : line = [] := by simpa using hline
    exact ⟨List.not_mem_nil, List.not_mem_nil⟩

theorem gather_cons (data line : List Char) (lines : List (List Char)) :
    gather data (line :: lines) =
      ((collect data line).2.toList ++ (gather (collect data line).1 lines).1,
        (gather (collect data line).1 lines).2) :=
  rfl

theorem gather_asides (data : List Char) (lines : List (List Char)) :
    gather data lines = gather data (lines.filter fun line => ¬Aside line) := by
  induction lines generalizing data with
  | nil => rfl
  | cons line lines ih =>
    by_cases haside : Aside line
    · rw [gather_cons, haside.collect_eq, List.filter_cons_of_neg (by simpa using haside), ih]
      rfl
    · rw [gather_cons, List.filter_cons_of_pos (by simpa using haside), gather_cons, ih]

theorem collect_value (data value : List Char) :
    collect data ("data: ".toList ++ value) = (data ++ (value ++ ['\n']), none) := rfl

theorem gather_values (data : List Char) (values rest : List (List Char)) :
    gather data (values.map ("data: ".toList ++ ·) ++ rest) = gather (data ++ values.flatMap (· ++ ['\n'])) rest := by
  induction values generalizing data with
  | nil => simp
  | cons value values ih =>
    rw [List.map_cons, List.cons_append, gather_cons, collect_value, ih, List.flatMap_cons, List.append_assoc]
    rfl

theorem gather_event (payload : List Char) (rest : List (List Char)) :
    gather [] (event payload ++ rest) = (payload :: (gather [] rest).1, (gather [] rest).2) := by
  have hend : collect (payload ++ ['\n']) [] = ([], some payload) := by simp [collect]
  rw [event, List.append_assoc, gather_values, flatMap_split, List.nil_append, List.singleton_append, gather_cons, hend]
  rfl

theorem gather_events (payloads : List (List Char)) : gather [] (payloads.flatMap event) = (payloads, []) := by
  induction payloads with
  | nil => rfl
  | cons payload payloads ih => rw [List.flatMap_cons, gather_event, ih]

theorem feed_events {payloads lines : List (List Char)} (h : ∀ payload ∈ payloads, '\r' ∉ payload)
    (hlines : (lines.filter fun line => ¬Aside line) = payloads.flatMap event) (e : LineEnd) :
    State.initial.feed (Utf8.encode (e.ended lines)) = (State.initial, payloads) := by
  have hunbroken : ∀ line ∈ lines, Unbroken line := by
    intro line hline
    by_cases haside : Aside line
    · exact haside.unbroken
    · have hkept : line ∈ lines.filter fun line => ¬Aside line := List.mem_filter.mpr ⟨hline, by simpa using haside⟩
      rw [hlines] at hkept
      obtain ⟨payload, hpayload, hevent⟩ := List.mem_flatMap.mp hkept
      exact unbroken_of_mem_event (h payload hpayload) hevent
  have htext : State.initial.feed (Utf8.encode (e.ended lines)) = State.initial.feedText (e.ended lines) := by
    rw [State.feed_stages, show State.initial.bytes = .whole from rfl, Utf8.run_encode]
    rfl
  rw [htext, State.feedText, show State.initial.lines = .fresh from rfl, Lines.run_ended hunbroken]
  have hgather : gather State.initial.data lines = (payloads, []) := by
    rw [gather_asides, hlines]
    exact gather_events payloads
  simp only [hgather]
  rfl

theorem answered_deliver (payloads : List (List Char)) : Answered payloads (deliver [] payloads) := by
  induction payloads with
  | nil => exact .nothing
  | cons payload payloads ih =>
    have htrims := trimsTo_trimmed payload
    rw [deliver]
    unfold Notice.ofPayload
    by_cases hblank : trimmed payload = []
    · simp only [hblank, if_true]
      exact .blank (hblank ▸ htrims) ih
    by_cases hdone : trimmed payload = doneMark.toList
    · simp only [hdone, if_true]
      exact .done (hdone ▸ htrims)
    cases hread : Chunk.reader.ofText (String.ofList (trimmed payload)) with
    | ok c =>
      simp only [hblank, hdone, if_false, hread]
      exact .chunk htrims hread ih
    | error e =>
      simp only [hblank, hdone, if_false, hread]
      exact .unreadable htrims hblank hdone hread

theorem Answered.eq {payloads : List (List Char)} {answers : List Item} (h : Answered payloads answers) :
    answers = deliver [] payloads := by
  induction h with
  | nothing => rfl
  | blank trims _ ih => simp [deliver, Notice.ofPayload, trims.eq, ih]
  | done trims => simp [deliver, Notice.ofPayload, trims.eq, doneMark]
  | @chunk payload core _ _ _ trims read _ ih =>
    -- Neither the empty text nor the mark of the end can be read as a chunk.
    have hvisible : core ≠ [] := by
      rintro rfl
      cases read
    have hunmarked : core ≠ doneMark.toList := by
      rintro rfl
      cases read
    simp [deliver, Notice.ofPayload, trims.eq, hvisible, hunmarked, read, ih]
  | unreadable trims visible unmarked read => simp [deliver, Notice.ofPayload, trims.eq, visible, unmarked, read]

/-- Payloads that are written as events, with asides between their lines, are answered one after the other. -/
theorem items_of_events {payloads lines : List (List Char)} {cuts : List (List UInt8)} {e : LineEnd}
    (h : ∀ payload ∈ payloads, '\r' ∉ payload)
    (hlines : (lines.filter fun line => ¬Aside line) = payloads.flatMap event)
    (hcuts : cuts.flatten = Utf8.encode (e.ended lines)) (answers : List Item) :
    items (cuts.map .bytes) = answers ↔ Answered payloads answers := by
  have hitems : items (cuts.map .bytes) = deliver [] payloads := by
    rw [items, State.items_eq_deliver, leadingBytes_map, firstFailure?_map, hcuts, feed_events h hlines]
    rfl
  rw [hitems]
  constructor
  · rintro rfl
    exact answered_deliver payloads
  · intro hanswered
    exact hanswered.eq.symm

def greeting : List (List Char) :=
  ["\x7b\"choices\":\n[\x7b\"delta\":\x7b\"content\":\"é\"\x7d\x7d]\x7d", "\n ", " [DONE]", "?"].map String.toList

def greetingLines : List (List Char) :=
  [": hello", "data: \x7b\"choices\":", "retry: 3", "data: [\x7b\"delta\":\x7b\"content\":\"é\"\x7d\x7d]\x7d", "",
    "event", "data: ", "data:  ", "", "data:  [DONE]", "", "data: ?", ":", "", "id: data"].map String.toList

def greetingBytes : List UInt8 := Utf8.encode (LineEnd.returnLineFeed.ended greetingLines)

theorem items_of_greeting :
    (∀ payload ∈ greeting, '\r' ∉ payload) ∧
      (greetingLines.filter fun line => ¬Aside line) = greeting.flatMap event ∧
      items ((greetingBytes.map ([·])).map .bytes) = [.ok ⟨[⟨0, none, some "é"⟩]⟩] := by
  have hcr : ∀ payload ∈ greeting, '\r' ∉ payload := by decide
  have hlines : (greetingLines.filter fun line => ¬Aside line) = greeting.flatMap event := by decide +kernel
  have hbytes : (greetingBytes.map ([·])).flatten = greetingBytes := by
    rw [← List.flatMap_def, List.flatMap_singleton']
  have hchunk : Chunk.reader.ofText (String.ofList (trimmed greeting[0])) = .ok ⟨[⟨0, none, some "é"⟩]⟩ := by
    decide +kernel
  have hblank : trimmed greeting[1] = [] := by decide
  have hdone : trimmed greeting[2] = doneMark.toList := by decide
  refine ⟨hcr, hlines, (items_of_events hcr hlines hbytes _).mpr ?_⟩
  exact .chunk (trimsTo_trimmed _) hchunk (.blank (hblank ▸ trimsTo_trimmed _) (.done (hdone ▸ trimsTo_trimmed _)))

end EventStream

end ChatGateway
