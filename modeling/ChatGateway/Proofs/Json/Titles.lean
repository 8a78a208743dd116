import ChatGateway.Json.Document
import ChatGateway.Json.Single
import ChatGateway.Proofs.Json.Records

namespace ChatGateway

theorem mapError_bind {ε ε' α β : Type} (x : Except ε α) (f : α → Except ε β) (g : ε → ε') :
    (x >>= f).mapError g = x.mapError g >>= fun a => (f a).mapError g := by
  cases x with
  | error e => rfl
  | ok a => rfl

theorem mapError_map {ε ε' α β : Type} (x : Except ε α) (f : α → β) (g : ε → ε') :
    (x.map f).mapError g = (x.mapError g).map f := by
  cases x with
  | error e => rfl
  | ok a => rfl

namespace Json

def ReadError.titled (title : String) : ReadError → ReadError
  | .wrongType found (.record _) => .wrongType found (.record title)
  | .wrongLength found _ fields => .wrongLength found title fields
  | e => e

theorem titled_mismatch {wanted : Wanted} (h : ∀ name, wanted ≠ .record name) (title : String) (v : Json) :
    (v.mismatch wanted).titled title = v.mismatch wanted := by
  unfold mismatch
  cases v.found? with
  | none => rfl
  | some found =>
    cases wanted with
    | record name => exact absurd rfl (h name)
    | _ => rfl

namespace Reader

def Untitled {α : Type} (reader : Reader α) : Prop :=
  ∀ title v, (reader v).mapError (ReadError.titled title) = reader v

theorem untitled_text : Untitled text := by
  intro title v
  cases v with
  | string s =>
    rw [text]
    cases s.text? <;> rfl
  | _ => exact congrArg Except.error (titled_mismatch (by simp) title _)

theorem untitled_integer (type : String) (least limit : Int) : Untitled (integer type least limit) := by
  intro title v
  cases v with
  | number n =>
    rw [integer]
    rcases Number.Literal.ofNumeral n with _ | i | x
    · rfl
    · dsimp only
      split <;> rfl
    · rfl
  | _ => exact congrArg Except.error (titled_mismatch (by simp) title _)

theorem Untitled.map {α β : Type} {reader : Reader α} (h : reader.Untitled) (f : α → β) :
    Untitled fun v => (reader v).map f := by
  intro title v
  dsimp only
  rw [mapError_map, h]

theorem untitled_int32 : Untitled int32 := (untitled_integer _ _ _).map _

theorem untitled_uint32 : Untitled uint32 := (untitled_integer _ _ _).map _

theorem untitled_uint64 (type : String) : Untitled (uint64 type) := (untitled_integer _ _ _).map _

theorem untitled_single : Untitled single := by
  intro title v
  cases v with
  | number n =>
    rw [single]
    rcases Number.Literal.ofNumeral n with _ | i | x <;> rfl
  | _ => exact congrArg Except.error (titled_mismatch (by simp) title _)

theorem Untitled.mapM {α : Type} {reader : Reader α} (h : reader.Untitled) (title : String) (items : List Json) :
    (items.mapM reader).mapError (ReadError.titled title) = items.mapM reader := by
  induction items with
  | nil => rfl
  | cons v items ih =>
    rw [List.mapM_cons, mapError_bind, h]
    apply bind_congr
    intro x
    rw [mapError_bind, ih]
    rfl

theorem Untitled.list {α : Type} {reader : Reader α} (h : reader.Untitled) : (list reader).Untitled := by
  intro title v
  cases v with
  | array items closed =>
    rw [Reader.list, mapError_bind, h.mapM]
    apply bind_congr
    intro xs
    split <;> rfl
  | _ => exact congrArg Except.error (titled_mismatch (by simp) title _)

end Reader

namespace Record

structure Untitled (r : Record α) : Prop where
  checks : ∀ slot ∈ r.slots, ∀ title v, (slot.check v).mapError (ReadError.titled title) = slot.check v
  build : ∀ title find, (r.build find).mapError (ReadError.titled title) = r.build find

theorem untitled_fieldD {reader : Reader α} (h : reader.Untitled) (name : String) (default : α) :
    (fieldD name reader default).Untitled where
  checks := by
    intro slot hslot title v
    obtain rfl := List.mem_singleton.mp hslot
    exact h.map _ title v
  build := by
    intro title find
    simp only [fieldD]
    cases find name with
    | none => rfl
    | some v => exact h title v

theorem Untitled.map {r : Record α} (h : r.Untitled) (f : α → β) : (f <$> r).Untitled where
  checks := h.checks
  build := by
    intro title find
    change ((r.build find).map f).mapError _ = (r.build find).map f
    rw [mapError_map, h.build]

theorem Untitled.seq {r : Record (α → β)} {s : Record α} (hr : r.Untitled) (hs : s.Untitled) : (r <*> s).Untitled where
  checks := by
    intro slot hslot
    rcases List.mem_append.mp hslot with hslot | hslot
    · exact hr.checks slot hslot
    · exact hs.checks slot hslot
  build := by
    intro title find
    change (r.build find >>= fun g => s.build find >>= fun a => Pure.pure (g a)).mapError _ = _
    rw [mapError_bind, hr.build]
    apply bind_congr
    intro g
    rw [mapError_bind, hs.build]
    rfl

theorem scanMembers_titled {slots : List Slot}
    (h : ∀ slot ∈ slots, ∀ title v, (slot.check v).mapError (ReadError.titled title) = slot.check v) (title : String)
    (seen : List String) (ms : List (Option Quoted × Json)) :
    (scanMembers slots seen ms).mapError (ReadError.titled title) = scanMembers slots seen ms := by
  induction ms generalizing seen with
  | nil => rfl
  | cons m ms ih =>
    obtain ⟨_ | key, v⟩ := m
    · rfl
    rw [scanMembers, mapError_bind, Reader.untitled_text]
    apply bind_congr
    intro name
    cases hslot : slot? slots name with
    | none =>
      dsimp only
      split
      · exact ih seen
      · rfl
    | some slot =>
      dsimp only
      split
      · rfl
      · rw [mapError_bind, h slot (List.mem_of_find?_eq_some hslot)]
        apply bind_congr
        intro _
        rw [mapError_bind, ih]
        rfl

theorem scanItems_titled {slots : List Slot}
    (h : ∀ slot ∈ slots, ∀ title v, (slot.check v).mapError (ReadError.titled title) = slot.check v) (title : String)
    (short : Nat → ReadError) (position : Nat) (items : List Json) :
    (scanItems short position slots items).mapError (ReadError.titled title) =
      scanItems (fun position => (short position).titled title) position slots items := by
  induction slots generalizing position items with
  | nil => cases items <;> rfl
  | cons slot slots ih =>
    have hrest := ih fun slot hslot => h slot (List.mem_cons_of_mem _ hslot)
    cases items with
    | nil =>
      rw [scanItems, scanItems]
      split
      · rfl
      · exact hrest (position + 1) []
    | cons v items =>
      rw [scanItems, scanItems, mapError_bind, h slot List.mem_cons_self]
      apply bind_congr
      intro _
      rw [mapError_bind, hrest]
      rfl

theorem scan_titled {r : Record α} (h : r.Untitled) (title title' : String) (v : Json) :
    (r.scan title v).mapError (ReadError.titled title') = r.scan title' v := by
  cases v with
  | object ms closed =>
    rw [scan, scan, mapError_bind, scanMembers_titled h.checks]
    apply bind_congr
    intro found
    split <;> rfl
  | array items closed =>
    rw [scan, scan, mapError_bind, scanItems_titled h.checks]
    have hshort : (fun position : Nat =>
        (if closed then ReadError.wrongLength position title r.slots.length else .malformed).titled title') =
          fun position => if closed then .wrongLength position title' r.slots.length else .malformed := by
      funext position
      split <;> rfl
    rw [hshort]
    apply bind_congr
    intro found
    split <;> rfl
  | _ =>
    refine congrArg Except.error ?_
    unfold mismatch
    cases found? _ <;> rfl

theorem read_titled {r : Record α} (h : r.Untitled) (title title' : String) (v : Json) :
    r.read title' v = (r.read title v).mapError (ReadError.titled title') := by
  rw [read, read, mapError_bind, scan_titled h]
  apply bind_congr
  intro found
  exact (h.build title' _).symm

theorem read_map (r : Record α) (f : α → β) (title : String) (v : Json) :
    (f <$> r).read title v = (r.read title v).map f := by
  change (r.scan title v >>= fun found => (r.build fun field => found.lookup field).map f) =
    (r.scan title v >>= fun found => r.build fun field => found.lookup field).map f
  cases r.scan title v with
  | error e => rfl
  | ok found => rfl

theorem map_seq (r : Record (α → β)) (s : Record α) (f : β → γ) : f <$> (r <*> s) = (f ∘ ·) <$> r <*> s := by
  refine congrArg (Record.mk _) ?_
  funext find
  change (r.build find >>= fun g => s.build find >>= fun a => Pure.pure (g a)).map f =
    (r.build find).map (f ∘ ·) >>= fun g => s.build find >>= fun a => Pure.pure (g a)
  cases r.build find with
  | error e => rfl
  | ok g => cases s.build find <;> rfl

theorem map_map (r : Record α) (f : α → β) (g : β → γ) : g <$> f <$> r = (g ∘ f) <$> r := by
  refine congrArg (Record.mk _) ?_
  funext find
  change ((r.build find).map f).map g = (r.build find).map (g ∘ f)
  cases r.build find <;> rfl

end Record

theorem Reader.ofText_of_eq {reader : Reader α} {reader' : Reader β} {f : α → β} {g : ReadError → ReadError}
    (h : ∀ v, reader' v = ((reader v).map f).mapError g) (hmalformed : g .malformed = .malformed) (text : String) :
    reader'.ofText text = ((reader.ofText text).map f).mapError g := by
  rw [ofText, ofText, Document.read, Document.read, h]
  rcases Document.parse text with ⟨root, ended⟩
  dsimp only
  cases reader root with
  | error e => rfl
  | ok x =>
    cases ended with
    | true => rfl
    | false => exact congrArg Except.error hmalformed.symm

end Json

end ChatGateway
