import ChatGateway.Proofs.EventStream.Backlog

namespace ChatGateway.EventStream

def leadingBytes : List Piece → List UInt8
  | .bytes bs :: pieces => bs ++ leadingBytes pieces
  | .failure _ :: _ | [] => []

def firstFailure? : List Piece → Option Interruption
  | .bytes _ :: pieces => firstFailure? pieces
  | .failure reason :: _ => some reason
  | [] => none

def joined (pieces : List Piece) : List Piece :=
  .bytes (leadingBytes pieces) :: ((firstFailure? pieces).map .failure).toList

theorem leadingBytes_map (cuts : List (List UInt8)) : leadingBytes (cuts.map .bytes) = cuts.flatten := by
  induction cuts with
  | nil => rfl
  | cons cut cuts ih => rw [List.map_cons, leadingBytes, ih, List.flatten_cons]

theorem firstFailure?_map (cuts : List (List UInt8)) : firstFailure? (cuts.map .bytes) = none := by
  induction cuts with
  | nil => rfl
  | cons cut cuts ih => rw [List.map_cons, firstFailure?, ih]

theorem deliver_append (others : List Item) (ps qs : List (List Char)) :
    deliver others (ps ++ qs) = deliver (deliver others qs) ps := by
  induction ps with
  | nil => rfl
  | cons p ps ih =>
    simp only [List.cons_append, deliver, ih]

def State.finish (s : State) : Option Interruption → List Item
  | none => s.ending
  | some reason => [.error (.interrupted reason)]

theorem State.items_eq_deliver (s : State) (pieces : List Piece) :
    s.items pieces =
      deliver ((s.feed (leadingBytes pieces)).1.finish (firstFailure? pieces)) (s.feed (leadingBytes pieces)).2 := by
  induction pieces generalizing s with
  | nil => rfl
  | cons piece pieces ih =>
    cases piece with
    | failure reason => rfl
    | bytes bs =>
      simp only [State.items, leadingBytes, firstFailure?, State.feed_append, deliver_append]
      rw [ih]

theorem State.items_joined (s : State) (pieces : List Piece) : s.items (joined pieces) = s.items pieces := by
  have hbytes : leadingBytes (joined pieces) = leadingBytes pieces := by
    cases h : firstFailure? pieces <;> simp [joined, leadingBytes, h]
  have hfailure : firstFailure? (joined pieces) = firstFailure? pieces := by
    cases h : firstFailure? pieces <;> simp [joined, firstFailure?, h]
  rw [items_eq_deliver, items_eq_deliver, hbytes, hfailure]

def Orderly (items : List Item) : Prop :=
  ∃ (chunks : List Chunk) (fault : Option Fault), items = chunks.map .ok ++ (fault.map .error).toList

theorem orderly_finish (s : State) (failure : Option Interruption) : Orderly (s.finish failure) := by
  cases failure with
  | some reason => exact ⟨[], some _, rfl⟩
  | none =>
    rcases s with ⟨_ | _ | _, lines, data⟩
    · exact ⟨[], none, rfl⟩
    · exact ⟨[], some _, rfl⟩
    · exact ⟨[], some _, rfl⟩

theorem orderly_deliver {others : List Item} (h : Orderly others) (payloads : List (List Char)) :
    Orderly (deliver others payloads) := by
  induction payloads with
  | nil => exact h
  | cons payload payloads ih =>
    simp only [deliver]
    split
    · exact ih
    · exact ⟨[], none, rfl⟩
    next c _ =>
      obtain ⟨chunks, fault, heq⟩ := ih
      exact ⟨c :: chunks, fault, by rw [heq]; rfl⟩
    · exact ⟨[], some _, rfl⟩

/-- The items are those of the joined bytes; they are also those of a reader that decodes each piece as a whole and
keeps what it cannot use yet. -/
theorem items_independent_of_cuts (pieces : List Piece) :
    items pieces = items (joined pieces) ∧ Backlog.empty.items pieces = items pieces ∧ Orderly (items pieces) := by
  refine ⟨(State.initial.items_joined pieces).symm, Backlog.items_eq Backlog.settled_empty pieces, ?_⟩
  rw [items, State.items_eq_deliver]
  exact orderly_deliver (orderly_finish _ _) _

end ChatGateway.EventStream
