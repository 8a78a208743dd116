import ChatGateway.Json.Single
import ChatGateway.Proofs.Json.Printing
import ChatGateway.Proofs.Json.Records
import ChatGateway.Proofs.Number.Shortest
import Mathlib.Data.List.Forall2

namespace ChatGateway.Json

open Number

theorem whole_ofInt (i : Int) : Whole (ofInt i) := .number (Numeral.proper_ofInt i)

theorem whole_ofNat (n : Nat) : Whole (ofNat n) := whole_ofInt n

theorem whole_ofList {α : Type} {toJson : α → Json} (h : ∀ x, Whole (toJson x)) (xs : List α) :
    Whole (ofList (xs.map toJson)) := by
  refine .array ?_
  intro v hv
  obtain ⟨x, -, rfl⟩ := List.mem_map.mp hv
  exact h x

theorem whole_ofSingle (x : Binary) : Whole (ofSingle x) := by
  unfold ofSingle
  cases hnumeral : Number.single.numeral? singleLayout x with
  | none => exact .null
  | some n => exact .number (Format.proper_of_numeral? hnumeral)

theorem soundItems_iff (items : List Json) : soundItems items = true ↔ ∀ v ∈ items, v.sound = true := by
  induction items with
  | nil => simp [soundItems]
  | cons v items ih => simp [soundItems, ih]

theorem soundMembers_keyed_iff (ms : List (Quoted × Json)) :
    soundMembers (keyed ms) = true ↔ ∀ m ∈ ms, m.1.closed = true ∧ m.2.sound = true := by
  induction ms with
  | nil => simp [keyed, soundMembers]
  | cons m ms ih =>
    change (m.1.closed && m.2.sound && soundMembers (keyed ms)) = true ↔ _
    rw [Bool.and_eq_true, Bool.and_eq_true, ih, List.forall_mem_cons]

theorem Whole.sound {v : Json} (h : Whole v) : v.sound = true := by
  induction h with
  | null | bool | number => rfl
  | string scans closed => exact closed
  | array each ih =>
    rw [Json.sound, Bool.true_and, soundItems_iff]
    exact ih
  | object keys each _ ih =>
    rw [Json.sound, Bool.true_and, soundMembers_keyed_iff]
    intro m hm
    refine ⟨?_, ih m hm⟩
    cases keys m hm with
    | string scans closed => exact closed

namespace Reader

@[simp] theorem text_ofText (s : String) : text (Json.ofText s) = .ok s :=
  text_eq_ok_iff.mpr (Quoted.text?_ofText s)

theorem exists_items_of_list {α : Type} {reader : Reader α} {v : Json} {xs : List α} (h : list reader v = .ok xs) :
    ∃ items, v = .array items true ∧ items.mapM reader = .ok xs := by
  cases v with
  | array items closed =>
    obtain ⟨rfl, hitems⟩ := closed_and_eq_ok h
    exact ⟨items, rfl, hitems⟩
  | _ => cases h

theorem forall₂_of_mapM {α : Type} {reader : Reader α} {items : List Json} {xs : List α}
    (h : items.mapM reader = .ok xs) : List.Forall₂ (fun v x => reader v = .ok x) items xs := by
  induction items generalizing xs with
  | nil =>
    cases h
    exact .nil
  | cons v items ih =>
    rw [List.mapM_cons] at h
    obtain ⟨x, hx, h⟩ := bind_eq_ok h
    obtain ⟨rest, hrest, h⟩ := bind_eq_ok h
    cases h
    exact .cons hx (ih hrest)

theorem mapM_map {α β : Type} {reader : Reader α} {toJson : β → Json} {f : β → α}
    (h : ∀ x, reader (toJson x) = .ok (f x)) (xs : List β) : (xs.map toJson).mapM reader = .ok (xs.map f) := by
  induction xs with
  | nil => rfl
  | cons x xs ih =>
    rw [List.map_cons, List.mapM_cons, h x, ok_bind, ih]
    rfl

theorem list_ofList {α : Type} {reader : Reader α} {toJson : α → Json} (h : ∀ x, reader (toJson x) = .ok x)
    (xs : List α) : list reader (ofList (xs.map toJson)) = .ok xs := by
  have hitems := mapM_map (f := id) h xs
  rw [List.map_id] at hitems
  rw [ofList, list, hitems]
  rfl

theorem oneOrMany_ofText {α : Type} {type : String} {one : String → α} {many : List String → α} (s : String) :
    oneOrMany type one many (Json.ofText s) = .ok (one s) := by
  have hholdable : holdable greatestDepth (Json.ofText s) = true := by
    rw [Json.ofText, holdable, Quoted.text?_ofText]
    rfl
  rw [oneOrMany, if_pos hholdable, text_ofText]

theorem holdableItems_ofText (depth : Nat) (ss : List String) :
    holdableItems depth (ss.map Json.ofText) = true := by
  induction ss with
  | nil => rfl
  | cons s ss ih =>
    rw [List.map_cons, holdableItems, ih, Json.ofText, holdable, Quoted.text?_ofText]
    rfl

theorem oneOrMany_ofList {α : Type} {type : String} {one : String → α} {many : List String → α} (ss : List String) :
    oneOrMany type one many (ofList (ss.map Json.ofText)) = .ok (many ss) := by
  have hholdable : holdable greatestDepth (ofList (ss.map Json.ofText)) = true := by
    rw [ofList, holdable, holdableItems_ofText]
    rfl
  have htext : text (ofList (ss.map Json.ofText)) = .error ((ofList (ss.map Json.ofText)).mismatch .string) := rfl
  rw [oneOrMany, if_pos hholdable, htext, list_ofList text_ofText]

theorem integer_ofInt {type : String} {least limit i : Int} (hleast : least ≤ i) (hlimit : i < limit)
    (hlow : -0x8000000000000000 ≤ least) (hhigh : limit ≤ 0x10000000000000000) :
    integer type least limit (ofInt i) = .ok i := by
  have hliteral := Literal.ofNumeral_ofInt (i := i) (by omega) (by omega)
  rw [ofInt, integer, hliteral]
  exact if_pos ⟨hleast, hlimit⟩

@[simp] theorem int32_ofInt (n : Int32) : int32 (ofInt n.toInt) = .ok n := by
  have hleast := n.le_toInt
  have hlimit := n.toInt_lt
  rw [int32, integer_ofInt (by omega) (by omega) (by omega) (by omega)]
  exact congrArg Except.ok n.ofInt_toInt

@[simp] theorem uint32_ofNat (n : UInt32) : uint32 (ofNat n.toNat) = .ok n := by
  have hlimit := n.toNat_lt
  rw [uint32, ofNat, integer_ofInt (by omega) (by omega) (by omega) (by omega)]
  exact congrArg Except.ok (UInt32.ofNat_toNat)

@[simp] theorem uint64_ofNat (type : String) (n : UInt64) : uint64 type (ofNat n.toNat) = .ok n := by
  have hlimit := n.toNat_lt
  rw [uint64, ofNat, integer_ofInt (by omega) (by omega) (by omega) (by omega)]
  exact congrArg Except.ok (UInt64.ofNat_toNat)

end Reader

end ChatGateway.Json
