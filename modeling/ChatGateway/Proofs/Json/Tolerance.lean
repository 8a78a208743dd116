import ChatGateway.Proofs.Json.Values
import Mathlib.Data.List.Nodup
import Mathlib.Logic.Relation

namespace ChatGateway.Json

/-- A field of a record, and what its value is taken for. One that is `nullable` may be null instead of missing. -/
structure Field (σ : Type) where
  name : String
  nullable : Bool
  shape : σ

inductive Shape
  | plain
  | list (item : Shape)
  | record (fields : List (Field Shape))

/-- One change, at any depth. Members are changed where they stand first, for they can also be put in another order.
A name that is not made of characters is none, and a member of such a name cannot be added. -/
inductive Alters : Shape → Json → Json → Prop
  | reorder {fields : List (Field Shape)} {ms ms' : List (Option Quoted × Json)} (perm : ms.Perm ms') :
    Alters (.record fields) (.object ms true) (.object ms' true)
  | add {fields : List (Field Shape)} {ms : List (Option Quoted × Json)} {key : Quoted} {name : String} {v : Json}
      (quoted : Whole (.string key)) (text : key.text? = some name) (unknown : name ∉ fields.map Field.name)
      (whole : Whole v) :
    Alters (.record fields) (.object ms true) (.object ((some key, v) :: ms) true)
  | supply {fields : List (Field Shape)} {field : Field Shape} {ms : List (Option Quoted × Json)} {key : Quoted}
      (among : field ∈ fields) (nullable : field.nullable = true)
      (missing : ∀ m ∈ ms, m.1.bind Quoted.text? ≠ some field.name)
      (quoted : Whole (.string key)) (text : key.text? = some field.name) :
    Alters (.record fields) (.object ms true) (.object ((some key, .null) :: ms) true)
  | withdraw {fields : List (Field Shape)} {field : Field Shape} {ms : List (Option Quoted × Json)} {key : Quoted}
      (among : field ∈ fields) (nullable : field.nullable = true) (text : key.text? = some field.name) :
    Alters (.record fields) (.object ((some key, .null) :: ms) true) (.object ms true)
  | within {fields : List (Field Shape)} {field : Field Shape} {ms : List (Option Quoted × Json)} {key : Quoted}
      {v v' : Json} (among : field ∈ fields) (text : key.text? = some field.name) (inner : Alters field.shape v v') :
    Alters (.record fields) (.object ((some key, v) :: ms) true) (.object ((some key, v') :: ms) true)
  | position {fields : List (Field Shape)} {field : Field Shape} {items : List Json} {i : Nat} {v v' : Json}
      (place : fields[i]? = some field) (item : items[i]? = some v) (inner : Alters field.shape v v') :
    Alters (.record fields) (.array items true) (.array (items.set i v') true)
  | item {shape : Shape} {items : List Json} {i : Nat} {v v' : Json} (item : items[i]? = some v)
      (inner : Alters shape v v') : Alters (.list shape) (.array items true) (.array (items.set i v') true)

theorem whole_of_alters {shape : Shape} {v v' : Json} (h : Alters shape v v') (hv : Whole v) : Whole v' := by
  induction h with
  | reorder perm =>
    rw [whole_object_iff] at hv ⊢
    exact fun m hm => hv m (perm.mem_iff.mpr hm)
  | add quoted text unknown whole =>
    rw [whole_object_iff] at hv ⊢
    exact List.forall_mem_cons.mpr ⟨⟨⟨_, rfl, quoted⟩, whole⟩, hv⟩
  | supply among nullable missing quoted text =>
    rw [whole_object_iff] at hv ⊢
    exact List.forall_mem_cons.mpr ⟨⟨⟨_, rfl, quoted⟩, .null⟩, hv⟩
  | withdraw among nullable text =>
    rw [whole_object_iff] at hv ⊢
    exact (List.forall_mem_cons.mp hv).2
  | within among text inner ih =>
    rw [whole_object_iff, List.forall_mem_cons] at hv ⊢
    exact ⟨⟨hv.1.1, ih hv.1.2⟩, hv.2⟩
  | position place item inner ih | item item inner ih =>
    rw [whole_array_iff] at hv ⊢
    intro u hu
    rcases List.mem_or_eq_of_mem_set hu with hu | rfl
    · exact hv u hu
    · exact ih (hv _ (List.mem_of_getElem? item))

/-! ### What is found for the fields -/

inductive Field.Stands (field : Field Shape) : Option Json → Option Json → Prop
  | same (v : Option Json) : Stands field v v
  | altered {v v' : Json} (inner : Alters field.shape v v') : Stands field (some v) (some v')
  | supplied (nullable : field.nullable = true) : Stands field none (some .null)
  | withdrawn (nullable : field.nullable = true) : Stands field (some .null) none

def Alike (fields : List (Field Shape)) (found found' : List (String × Json)) : Prop :=
  ∀ field ∈ fields, field.Stands (found.lookup field.name) (found'.lookup field.name)

theorem alike_of_field {fields : List (Field Shape)} (hnodup : (fields.map Field.name).Nodup) {field : Field Shape}
    (among : field ∈ fields) {found found' : List (String × Json)}
    (here : field.Stands (found.lookup field.name) (found'.lookup field.name))
    (elsewhere : ∀ name, name ≠ field.name → found.lookup name = found'.lookup name) : Alike fields found found' := by
  intro other hother
  by_cases hname : other.name = field.name
  · rw [List.inj_on_of_nodup_map hnodup hother among hname]
    exact here
  · rw [elsewhere _ hname]
    exact .same _

theorem exists_holds_of_alters {fields : List (Field Shape)} (hnodup : (fields.map Field.name).Nodup) {v v' : Json}
    {found : List (String × Json)} (h : Alters (.record fields) v v') (holds : Holds (fields.map Field.name) v found) :
    ∃ found', Holds (fields.map Field.name) v' found' ∧ Alike fields found found' := by
  cases h with
  | reorder perm =>
    obtain ⟨gives⟩ := holds
    obtain ⟨found', hgives, hfound⟩ := gives.perm perm
    refine ⟨found', .object hgives, fun field _ => ?_⟩
    rw [lookup_perm gives.nodup hfound]
    exact .same _
  | add quoted text unknown whole =>
    obtain ⟨gives⟩ := holds
    exact ⟨found, .object (.other text unknown whole.sound gives), fun field _ => .same _⟩
  | @supply _ field ms key among nullable missing quoted text =>
    obtain ⟨gives⟩ := holds
    have hfresh : field.name ∉ found.map Prod.fst := by
      intro hin
      obtain ⟨m, hm, hkey⟩ := gives.exists_key hin
      exact missing m hm hkey
    refine ⟨_, .object (.field text (List.mem_map_of_mem among) hfresh gives), ?_⟩
    refine alike_of_field hnodup among ?_ fun name hname => (lookup_cons_ne hname _).symm
    rw [lookup_eq_none_of_not_mem hfresh, List.lookup_cons_self]
    exact .supplied nullable
  | @withdraw _ field ms key among nullable text =>
    obtain ⟨gives⟩ := holds
    obtain ⟨rest, rfl, hfresh, hrest⟩ := gives.head text (List.mem_map_of_mem among)
    refine ⟨rest, .object hrest, alike_of_field hnodup among ?_ fun name hname => lookup_cons_ne hname _⟩
    rw [lookup_eq_none_of_not_mem hfresh, List.lookup_cons_self]
    exact .withdrawn nullable
  | @within _ field ms key u u' among text inner =>
    obtain ⟨gives⟩ := holds
    obtain ⟨rest, rfl, hfresh, hrest⟩ := gives.head text (List.mem_map_of_mem among)
    refine ⟨_, .object (.field text (List.mem_map_of_mem among) hfresh hrest), ?_⟩
    refine alike_of_field hnodup among ?_ fun name hname => ?_
    · rw [List.lookup_cons_self, List.lookup_cons_self]
      exact .altered inner
    · rw [lookup_cons_ne hname, lookup_cons_ne hname]
  | @position _ field items i u u' place item inner =>
    obtain - | fits := holds
    have hset : (items.set i u').length ≤ (fields.map Field.name).length := by rwa [List.length_set]
    refine ⟨_, .array hset, fun other hother => ?_⟩
    obtain ⟨j, hj⟩ := List.mem_iff_getElem?.mp hother
    have hname : (fields.map Field.name)[j]? = some other.name := by rw [List.getElem?_map, hj, Option.map_some]
    rw [lookup_zip hnodup hname, lookup_zip hnodup hname, List.getElem?_set]
    by_cases hij : i = j
    · subst hij
      obtain rfl := Option.some.inj (place.symm.trans hj)
      obtain ⟨hi, rfl⟩ := List.getElem?_eq_some_iff.mp item
      rw [if_pos rfl, if_pos hi, item]
      exact .altered inner
    · rw [if_neg hij]
      exact .same _

/-! ### What is read -/

def Reader.Tolerates {α : Type} (reader : Reader α) (shape : Shape) : Prop :=
  ∀ {v v' : Json} {x : α}, Alters shape v v' → reader v = .ok x → reader v' = .ok x

structure Record.Tolerates {α : Type} (r : Record α) (fields : List (Field Shape)) : Prop where
  names : r.slots.map (·.name) = fields.map Field.name
  makes : ∀ {found found' : List (String × Json)} {x : α}, Alike fields found found' →
    r.build (fun name => found.lookup name) = .ok x → r.Makes found' x

namespace Reader

variable {α : Type} {reader : Reader α} {shape : Shape}

theorem tolerates_plain : Tolerates reader .plain := by
  intro v v' x h
  cases h

theorem optional_eq {v : Json} (h : v ≠ .null) : reader.optional v = (reader v).map some := by
  cases v with
  | null => exact absurd rfl h
  | _ => rfl

theorem Tolerates.optional (h : Tolerates reader shape) : Tolerates reader.optional shape := by
  intro v v' x halters hread
  have hv : v ≠ .null := by cases halters <;> simp
  have hv' : v' ≠ .null := by cases halters <;> simp
  rw [optional_eq hv] at hread
  rw [optional_eq hv']
  cases hx : reader v with
  | error e =>
    rw [hx] at hread
    cases hread
  | ok y =>
    rw [hx] at hread
    rw [h halters hx]
    exact hread

theorem mapM_set {items : List Json} {xs : List α} (h : items.mapM reader = .ok xs) {i : Nat} {v v' : Json}
    (item : items[i]? = some v) (hread : ∀ x, reader v = .ok x → reader v' = .ok x) :
    (items.set i v').mapM reader = .ok xs := by
  induction items generalizing i xs with
  | nil => simp at item
  | cons u items ih =>
    rw [List.mapM_cons] at h
    obtain ⟨x, hx, h⟩ := bind_eq_ok h
    obtain ⟨rest, hrest, h⟩ := bind_eq_ok h
    cases i with
    | zero =>
      obtain rfl : u = v := by simpa using item
      rw [List.set_cons_zero, List.mapM_cons, hread x hx, ok_bind, hrest]
      exact h
    | succ i =>
      rw [List.getElem?_cons_succ] at item
      rw [List.set_cons_succ, List.mapM_cons, hx, ok_bind, ih hrest item]
      exact h

theorem Tolerates.list (h : Tolerates reader shape) : Tolerates (list reader) (.list shape) := by
  intro v v' xs halters hread
  cases halters with
  | item item inner =>
    obtain ⟨-, hitems⟩ := closed_and_eq_ok hread
    rw [Reader.list, mapM_set hitems item fun x hx => h inner hx]
    rfl

end Reader

namespace Record

variable {α β : Type} {reader : Reader α} {shape : Shape} {name : String}

theorem tolerates_field (h : reader.Tolerates shape) : (field name reader).Tolerates [⟨name, false, shape⟩] where
  names := rfl
  makes := by
    intro found found' x alike hbuild
    obtain ⟨v, hv, hread⟩ := build_field hbuild
    have hstands := alike _ List.mem_cons_self
    simp only [hv] at hstands
    generalize hv' : found'.lookup name = o' at hstands
    cases hstands with
    | same => exact .field hv' hread
    | altered inner => exact .field hv' (h inner hread)
    | withdrawn nullable => cases nullable

theorem tolerates_fieldD {default : α} (h : reader.Tolerates shape) :
    (fieldD name reader default).Tolerates [⟨name, false, shape⟩] where
  names := rfl
  makes := by
    intro found found' x alike hbuild
    have hstands := alike _ List.mem_cons_self
    rcases build_fieldD hbuild with ⟨hnone, rfl⟩ | ⟨v, hv, hread⟩
    · simp only [hnone] at hstands
      generalize hv' : found'.lookup name = o' at hstands
      cases hstands with
      | same => exact .fieldD (.inl ⟨hv', rfl⟩)
      | supplied nullable => cases nullable
    · simp only [hv] at hstands
      generalize hv' : found'.lookup name = o' at hstands
      cases hstands with
      | same => exact .fieldD (.inr ⟨v, hv', hread⟩)
      | altered inner => exact .fieldD (.inr ⟨_, hv', h inner hread⟩)
      | withdrawn nullable => cases nullable

theorem tolerates_field? (h : reader.Tolerates shape) : (field? name reader).Tolerates [⟨name, true, shape⟩] where
  names := rfl
  makes := by
    intro found found' x alike hbuild
    have hstands := alike _ List.mem_cons_self
    rcases build_field? hbuild with ⟨hnone, rfl⟩ | ⟨v, hv, hread⟩
    · simp only [hnone] at hstands
      generalize hv' : found'.lookup name = o' at hstands
      cases hstands with
      | same => exact .field? (.inl ⟨hv', rfl⟩)
      | supplied nullable => exact .field? (.inr ⟨.null, hv', rfl⟩)
    · simp only [hv] at hstands
      generalize hv' : found'.lookup name = o' at hstands
      cases hstands with
      | same => exact .field? (.inr ⟨v, hv', hread⟩)
      | altered inner => exact .field? (.inr ⟨_, hv', h.optional inner hread⟩)
      | withdrawn nullable =>
        cases hread
        exact .field? (.inl ⟨hv', rfl⟩)

theorem Tolerates.map {r : Record α} {fields : List (Field Shape)} (h : r.Tolerates fields) (f : α → β) :
    (f <$> r).Tolerates fields where
  names := h.names
  makes := by
    intro found found' y alike hbuild
    obtain ⟨x, hx, rfl⟩ := build_map hbuild
    exact (h.makes alike hx).map f

theorem Tolerates.seq {r : Record (α → β)} {s : Record α} {fields fields' : List (Field Shape)}
    (hr : r.Tolerates fields) (hs : s.Tolerates fields') : (r <*> s).Tolerates (fields ++ fields') where
  names := by
    change (r.slots ++ s.slots).map (·.name) = _
    rw [List.map_append, List.map_append, hr.names, hs.names]
  makes := by
    intro found found' y alike hbuild
    obtain ⟨f, x, hf, hx, rfl⟩ := build_seq hbuild
    refine (hr.makes (fun field hfield => ?_) hf).seq (hs.makes (fun field hfield => ?_) hx)
    · exact alike field (List.mem_append_left _ hfield)
    · exact alike field (List.mem_append_right _ hfield)

theorem Tolerates.read {r : Record α} {fields : List (Field Shape)} (h : r.Tolerates fields)
    (hnodup : (fields.map Field.name).Nodup) (title : String) : Reader.Tolerates (r.read title) (.record fields) := by
  intro v v' x halters hread
  obtain ⟨found, hholds, hbuild⟩ := exists_holds hread
  rw [h.names] at hholds
  obtain ⟨found', hholds', halike⟩ := exists_holds_of_alters hnodup halters hholds
  exact read_of_holds (h.makes halike hbuild) (h.names ▸ hnodup) (h.names ▸ hholds') title

end Record

theorem Reader.Tolerates.changes {α : Type} {reader : Reader α} {shape : Shape} (h : reader.Tolerates shape)
    {v v' : Json} {x : α} (changes : Relation.ReflTransGen (Alters shape) v v') (hread : reader v = .ok x) :
    reader v' = .ok x := by
  induction changes with
  | refl => exact hread
  | tail _ halters ih => exact h halters ih

theorem whole_of_changes {shape : Shape} {v v' : Json} (changes : Relation.ReflTransGen (Alters shape) v v')
    (hv : Whole v) : Whole v' := by
  induction changes with
  | refl => exact hv
  | tail _ halters ih => exact whole_of_alters halters ih

/-- A text that is read has a value, every change to the value can be written, and each text that is written for the
changed value is read as before. -/
structure Reader.Overlooks {α : Type} (reader : Reader α) (shape : Shape) (text : String) (x : α) : Prop where
  denotes : ∃ v, Denotes text v
  written : ∀ {v v' : Json}, Denotes text v → Relation.ReflTransGen (Alters shape) v v' → ∃ text', Denotes text' v'
  reads : ∀ {v v' : Json} {text' : String}, Denotes text v → Relation.ReflTransGen (Alters shape) v v' →
    Denotes text' v' → reader.ofText text' = .ok x

theorem Reader.overlooks {α : Type} {reader : Reader α} {shape : Shape} (h : reader.Tolerates shape) {text : String}
    {x : α} (hread : reader.ofText text = .ok x) : reader.Overlooks shape text x := by
  obtain ⟨root, hparse, hx⟩ := ofText_eq_ok_iff.mp hread
  have hdenotes := parse_eq_iff.mp hparse
  refine ⟨⟨root, hdenotes⟩, ?_, ?_⟩
  · intro v v' hv changes
    obtain ⟨before, s, after, -, -, hspells, -⟩ := hv
    exact ⟨v'.render, denotes_render (whole_of_changes changes (whole_of_spells hspells))⟩
  · intro v v' text' hv changes hv'
    obtain rfl := hv.unique hdenotes
    exact ofText_eq_ok_iff.mpr ⟨v', parse_eq_iff.mpr hv', h.changes changes hx⟩

end ChatGateway.Json
