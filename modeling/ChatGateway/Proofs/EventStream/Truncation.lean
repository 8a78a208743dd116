import ChatGateway.Proofs.EventStream.Pieces

namespace ChatGateway.EventStream

open Text

def chunks (items : List Item) : List Chunk := items.filterMap Except.toOption

inductive Broken : List Item → Prop
  | clean : Broken []
  | off (reason : Interruption) : Broken [.error (.interrupted reason)]

theorem Broken.length_le {items : List Item} (h : Broken items) : items.length ≤ 1 := by
  cases h with
  | clean => exact Nat.zero_le 1
  | off reason => exact Nat.le_refl 1

theorem Broken.eq_of_mem {items : List Item} (h : Broken items) {item : Item} (hitem : item ∈ items) :
    ∃ reason, item = .error (.interrupted reason) := by
  cases h with
  | clean => cases hitem
  | off reason => exact ⟨reason, List.mem_singleton.mp hitem⟩

theorem Broken.chunks_eq {items : List Item} (h : Broken items) : chunks items = [] := by
  cases h <;> rfl

theorem State.broken_ending (s : State) : Broken s.ending := by
  unfold ending
  cases s.bytes with
  | whole => exact .clean
  | within => exact .off _
  | malformed width => exact .off _

theorem exists_delivered (payloads : List (List Char)) :
    ∃ kept, (∀ others, deliver others payloads = kept ++ others) ∨ ∀ others, deliver others payloads = kept := by
  induction payloads with
  | nil => exact ⟨[], .inl fun _ => rfl⟩
  | cons payload payloads ih =>
    obtain ⟨kept, ih⟩ := ih
    cases hnotice : Notice.ofPayload payload with
    | blank =>
      refine ⟨kept, ih.imp ?_ ?_⟩
      · intro h others
        rw [deliver, hnotice]
        exact h others
      · intro h others
        rw [deliver, hnotice]
        exact h others
    | done =>
      refine ⟨[], .inr ?_⟩
      intro others
      rw [deliver, hnotice]
    | chunk c =>
      refine ⟨.ok c :: kept, ih.imp ?_ ?_⟩
      · intro h others
        rw [deliver, hnotice]
        exact congrArg _ (h others)
      · intro h others
        rw [deliver, hnotice]
        exact congrArg _ (h others)
    | unreadable e =>
      refine ⟨[.error (.obscure (.document e))], .inr ?_⟩
      intro others
      rw [deliver, hnotice]

theorem items_map_bytes (cuts : List (List UInt8)) :
    items (cuts.map .bytes) =
      deliver (State.initial.feed cuts.flatten).1.ending (State.initial.feed cuts.flatten).2 := by
  rw [items, State.items_eq_deliver, leadingBytes_map, firstFailure?_map]
  rfl

theorem exists_kept {cuts whole : List (List UInt8)} (h : cuts.flatten <+: whole.flatten) :
    ∃ kept broken, items (cuts.map .bytes) = kept ++ broken ∧ kept <+: items (whole.map .bytes) ∧ Broken broken := by
  obtain ⟨rest, hrest⟩ := h
  rw [items_map_bytes, items_map_bytes, ← hrest, State.feed_append, deliver_append]
  generalize State.initial.feed cuts.flatten = read
  -- the payloads of the beginning leave the rest to follow, or one of them has ended the stream
  obtain ⟨kept, hopen | hended⟩ := exists_delivered read.2
  · refine ⟨kept, read.1.ending, hopen _, ?_, read.1.broken_ending⟩
    rw [hopen]
    exact List.prefix_append _ _
  · refine ⟨kept, [], ?_, ?_, .clean⟩
    · rw [hended, List.append_nil]
    · exact ⟨[], (List.append_nil kept).trans (hended _).symm⟩

/-- However a stream and its beginning are cut into pieces: the chunks of the beginning are the first chunks of the
stream, a payload that is not understood stands at the same place in both, and there is nothing else but the news, at
the end, that the beginning has broken off. -/
theorem items_of_beginning {cuts whole : List (List UInt8)} (h : cuts.flatten <+: whole.flatten) :
    chunks (items (cuts.map .bytes)) <+: chunks (items (whole.map .bytes)) ∧
    (∀ (i : Nat) (reason : Obscurity), (items (cuts.map .bytes))[i]? = some (Except.error (.obscure reason)) →
      (items (whole.map .bytes))[i]? = some (Except.error (.obscure reason))) ∧
    ∃ kept broken, items (cuts.map .bytes) = kept ++ broken ∧ kept <+: items (whole.map .bytes) ∧
      broken.length ≤ 1 ∧ ∀ item ∈ broken, ∃ reason, item = .error (.interrupted reason) := by
  obtain ⟨kept, broken, hitems, hkept, hbroken⟩ := exists_kept h
  rw [hitems]
  refine ⟨?_, ?_, kept, broken, rfl, hkept, hbroken.length_le, fun item hitem => hbroken.eq_of_mem hitem⟩
  · have hchunks : chunks (kept ++ broken) = chunks kept := by
      rw [chunks, List.filterMap_append, ← chunks, ← chunks, hbroken.chunks_eq, List.append_nil]
    rw [hchunks]
    exact hkept.filterMap _
  · intro i reason hi
    by_cases hlt : i < kept.length
    · rw [List.getElem?_append_left hlt] at hi
      obtain ⟨later, hlater⟩ := hkept
      rw [← hlater, List.getElem?_append_left hlt]
      exact hi
    · rw [List.getElem?_append_right (Nat.le_of_not_lt hlt)] at hi
      obtain ⟨other, hother⟩ := hbroken.eq_of_mem (List.mem_of_getElem? hi)
      cases hother

def cutWithin : List (List UInt8) := [Utf8.encode "data: \x7b\x7d\n\nda".toList, Utf8.encode "ta: ".toList ++ [0xC3]]

def uncut : List (List UInt8) := [Utf8.encode "data: \x7b\x7d\n\ndata: é\n\n".toList]

theorem cutWithin_items :
    cutWithin.flatten <+: uncut.flatten ∧ chunks (items (cutWithin.map .bytes)) = [⟨[]⟩] ∧
      chunks (items (cutWithin.map .bytes)) <+: chunks (items (uncut.map .bytes)) ∧
      items (cutWithin.map .bytes) = [.ok ⟨[]⟩, .error (.interrupted .unfinishedCharacter)] ∧
      items (uncut.map .bytes) = [.ok ⟨[]⟩, .error (.obscure (.document .malformed))] := by
  have hbegins : cutWithin.flatten <+: uncut.flatten := by decide +kernel
  refine ⟨hbegins, ?_, (items_of_beginning hbegins).1, ?_, ?_⟩ <;> decide +kernel

end ChatGateway.EventStream
