import ChatGateway.Json.Document
import ChatGateway.Json.Record
import ChatGateway.Proofs.Json.Quoting
import Mathlib.Data.List.Basic

namespace ChatGateway

@[simp] theorem ok_bind {ε α β : Type} (x : α) (f : α → Except ε β) : (Except.ok x >>= f) = f x := rfl

theorem mapError_eq_ok {ε ε' α : Type} {f : ε → ε'} {x : Except ε α} {a : α} (h : x.mapError f = .ok a) :
    x = .ok a := by
  cases x with
  | error e => cases h
  | ok x =>
    cases h
    rfl

theorem bind_eq_ok {ε α β : Type} {x : Except ε α} {f : α → Except ε β} {b : β} (h : x >>= f = .ok b) :
    ∃ a, x = .ok a ∧ f a = .ok b := by
  cases x with
  | error e => cases h
  | ok a => exact ⟨a, rfl, h⟩

theorem closed_and_eq_ok {ε α : Type} {x : Except ε α} {closed : Bool} {e : ε} {a : α}
    (h : (x >>= fun b => if closed then Pure.pure b else throw e) = .ok a) : closed = true ∧ x = .ok a := by
  obtain ⟨b, hb, hclosed⟩ := bind_eq_ok h
  cases closed with
  | false => cases hclosed
  | true =>
    cases hclosed
    exact ⟨rfl, hb⟩

theorem exists_ok_of_isSome {ε α : Type} {x : Except ε α} (h : x.toOption.isSome = true) : ∃ a, x = .ok a := by
  cases x with
  | error e => cases h
  | ok a => exact ⟨a, rfl⟩

namespace Json

theorem Document.read_eq_ok_iff {ε α : Type} {fail : ReadError → ε} {reader : Json → Except ε α} {d : Document}
    {x : α} : d.read fail reader = .ok x ↔ d.ended = true ∧ reader d.root = .ok x := by
  obtain ⟨root, ended⟩ := d
  rw [read]
  dsimp only
  cases reader root with
  | error e => simp [bind, Except.bind]
  | ok y => cases ended <;> simp [bind, Except.bind, pure, Except.pure, throw, throwThe, MonadExceptOf.throw]

theorem Reader.ofText_eq_ok_iff {α : Type} {reader : Reader α} {text : String} {x : α} :
    reader.ofText text = .ok x ↔ ∃ root, Document.parse text = ⟨root, true⟩ ∧ reader root = .ok x := by
  rw [ofText, Document.read_eq_ok_iff]
  constructor
  · rintro ⟨hended, hread⟩
    exact ⟨_, by rw [← hended], hread⟩
  · rintro ⟨root, hparse, hread⟩
    rw [hparse]
    exact ⟨rfl, hread⟩

theorem Reader.text_eq_ok_iff {v : Json} {s : String} : Reader.text v = .ok s ↔ v.text? = some s := by
  cases v with
  | string q =>
    rw [Reader.text, Json.text?]
    cases q.text? <;> simp
  | _ => simp [Reader.text, Json.text?]

/-- Members that give values for some names, each at most once. Others among them are passed over. -/
inductive Gives (names : List String) : List (Option Quoted × Json) → List (String × Json) → Prop
  | nil : Gives names [] []
  | field {key : Quoted} {name : String} {v : Json} {ms found} (text : key.text? = some name)
      (known : name ∈ names) (fresh : name ∉ found.map Prod.fst) (rest : Gives names ms found) :
    Gives names ((some key, v) :: ms) ((name, v) :: found)
  | other {key : Quoted} {name : String} {v : Json} {ms found} (text : key.text? = some name) (unknown : name ∉ names)
      (sound : v.sound) (rest : Gives names ms found) : Gives names ((some key, v) :: ms) found

/-- The value has the form of a record: an object with its fields among the members, or an array of the first of
them in their order. -/
inductive Holds (names : List String) : Json → List (String × Json) → Prop
  | object {ms found} (gives : Gives names ms found) : Holds names (.object ms true) found
  | array {items : List Json} (fits : items.length ≤ names.length) : Holds names (.array items true) (names.zip items)

section

variable {names : List String} {ms ms' : List (Option Quoted × Json)} {found found' : List (String × Json)}

theorem Gives.nodup (h : Gives names ms found) : (found.map Prod.fst).Nodup := by
  induction h with
  | nil => exact List.nodup_nil
  | field text known fresh rest ih => exact List.nodup_cons.mpr ⟨fresh, ih⟩
  | other text unknown sound rest ih => exact ih

theorem Gives.unique (h : Gives names ms found) (h' : Gives names ms found') : found = found' := by
  induction h generalizing found' with
  | nil =>
    cases h'
    rfl
  | field text known fresh rest ih =>
    cases h' with
    | field text' known' fresh' rest' =>
      obtain rfl := Option.some.inj (text.symm.trans text')
      rw [ih rest']
    | other text' unknown sound rest' =>
      obtain rfl := Option.some.inj (text.symm.trans text')
      exact absurd known unknown
  | other text unknown sound rest ih =>
    cases h' with
    | field text' known' fresh' rest' =>
      obtain rfl := Option.some.inj (text.symm.trans text')
      exact absurd known' unknown
    | other text' unknown' sound' rest' => exact ih rest'

theorem Holds.unique {v : Json} (h : Holds names v found) (h' : Holds names v found') : found = found' := by
  cases h with
  | object gives =>
    cases h' with
    | object gives' => exact gives.unique gives'
  | array fits =>
    cases h' with
    | array fits' => rfl

theorem holds_record {members : List (String × Json)} (hnodup : (members.map Prod.fst).Nodup)
    (hknown : ∀ m ∈ members, m.1 ∈ names) : Holds names (record members) members := by
  apply Holds.object
  induction members with
  | nil => exact .nil
  | cons m members ih =>
    obtain ⟨hfresh, hrest⟩ := List.nodup_cons.mp hnodup
    refine .field (Quoted.text?_ofText m.1) (hknown m List.mem_cons_self) hfresh ?_
    exact ih hrest fun n hn => hknown n (List.mem_cons_of_mem _ hn)

theorem map_fst_zip_eq_take (names : List String) (items : List Json) :
    (names.zip items).map Prod.fst = names.take items.length := by
  induction names generalizing items with
  | nil => simp
  | cons name names ih =>
    cases items with
    | nil => rfl
    | cons v items => simp [ih]

theorem Holds.nodup (hnames : names.Nodup) {v : Json} (h : Holds names v found) : (found.map Prod.fst).Nodup := by
  cases h with
  | object gives => exact gives.nodup
  | array fits =>
    rw [map_fst_zip_eq_take]
    exact hnames.sublist (List.take_sublist _ _)

theorem lookup_cons_ne {name other : String} (h : other ≠ name) (v : Json) :
    ((name, v) :: found).lookup other = found.lookup other := by
  rw [List.lookup_cons, beq_false_of_ne h]

theorem lookup_eq_some_of_mem (hnodup : (found.map Prod.fst).Nodup) {name : String} {v : Json}
    (h : (name, v) ∈ found) : found.lookup name = some v := by
  induction found with
  | nil => cases h
  | cons m found ih =>
    obtain ⟨hfresh, hrest⟩ := List.nodup_cons.mp hnodup
    rcases List.mem_cons.mp h with rfl | hmem
    · simp
    · have hne : name ≠ m.1 := by
        rintro rfl
        exact hfresh (List.mem_map.mpr ⟨_, hmem, rfl⟩)
      rw [lookup_cons_ne hne]
      exact ih hrest hmem

theorem lookup_eq_some_iff_mem (hnodup : (found.map Prod.fst).Nodup) {name : String} {v : Json} :
    found.lookup name = some v ↔ (name, v) ∈ found := by
  refine ⟨fun h => ?_, lookup_eq_some_of_mem hnodup⟩
  obtain ⟨before, after, rfl, -⟩ := List.lookup_eq_some_iff.mp h
  simp

theorem lookup_perm (hnodup : (found.map Prod.fst).Nodup) (hperm : found.Perm found') (name : String) :
    found.lookup name = found'.lookup name := by
  have hnodup' := (hperm.map Prod.fst).nodup_iff.mp hnodup
  ext v
  rw [lookup_eq_some_iff_mem hnodup, lookup_eq_some_iff_mem hnodup', hperm.mem_iff]

theorem Gives.perm (h : Gives names ms found) (hperm : ms.Perm ms') :
    ∃ found', Gives names ms' found' ∧ found.Perm found' := by
  induction hperm generalizing found with
  | nil => exact ⟨found, h, .refl _⟩
  | cons m _ ih =>
    cases h with
    | field text known fresh rest =>
      obtain ⟨found', hgives, hfound⟩ := ih rest
      exact ⟨_, .field text known (fun hin => fresh ((hfound.map _).mem_iff.mpr hin)) hgives, hfound.cons _⟩
    | other text unknown sound rest =>
      obtain ⟨found', hgives, hfound⟩ := ih rest
      exact ⟨found', .other text unknown sound hgives, hfound⟩
  | swap m n ms =>
    cases h with
    | field text known fresh rest =>
      cases rest with
      | field text' known' fresh' rest =>
        obtain ⟨hne, hfresh⟩ := List.ne_and_not_mem_of_not_mem_cons fresh
        refine ⟨_, .field text' known' ?_ (.field text known hfresh rest), .swap _ _ _⟩
        exact List.not_mem_cons_of_ne_of_not_mem hne.symm fresh'
      | other text' unknown sound rest =>
        exact ⟨_, .other text' unknown sound (.field text known fresh rest), .refl _⟩
    | other text unknown sound rest =>
      cases rest with
      | field text' known' fresh' rest =>
        exact ⟨_, .field text' known' fresh' (.other text unknown sound rest), .refl _⟩
      | other text' unknown' sound' rest =>
        exact ⟨_, .other text' unknown' sound' (.other text unknown sound rest), .refl _⟩
  | trans _ _ ih ih' =>
    obtain ⟨found', hgives, hfound⟩ := ih h
    obtain ⟨found'', hgives', hfound'⟩ := ih' hgives
    exact ⟨found'', hgives', hfound.trans hfound'⟩

theorem Gives.exists_key (h : Gives names ms found) {name : String} (hname : name ∈ found.map Prod.fst) :
    ∃ m ∈ ms, m.1.bind Quoted.text? = some name := by
  induction h with
  | nil => simp at hname
  | field text known fresh rest ih =>
    rcases List.mem_cons.mp hname with rfl | hname
    · exact ⟨_, List.mem_cons_self, text⟩
    · obtain ⟨m, hm, hkey⟩ := ih hname
      exact ⟨m, List.mem_cons_of_mem _ hm, hkey⟩
  | other text unknown sound rest ih =>
    obtain ⟨m, hm, hkey⟩ := ih hname
    exact ⟨m, List.mem_cons_of_mem _ hm, hkey⟩

theorem Gives.head {key : Quoted} {name : String} {v : Json} (h : Gives names ((some key, v) :: ms) found)
    (text : key.text? = some name) (known : name ∈ names) :
    ∃ rest, found = (name, v) :: rest ∧ name ∉ rest.map Prod.fst ∧ Gives names ms rest := by
  cases h with
  | field text' known' fresh rest =>
    obtain rfl := Option.some.inj (text.symm.trans text')
    exact ⟨_, rfl, fresh, rest⟩
  | other text' unknown sound rest =>
    obtain rfl := Option.some.inj (text.symm.trans text')
    exact absurd known unknown

theorem lookup_eq_none_of_not_mem {name : String} (h : name ∉ found.map Prod.fst) :
    found.lookup name = none := by
  rw [List.lookup_eq_none_iff]
  intro m hm
  exact bne_iff_ne.mpr fun heq => h (heq ▸ List.mem_map_of_mem hm)

theorem lookup_zip (hnodup : names.Nodup) {name : String} {i : Nat} (h : names[i]? = some name)
    (items : List Json) : (names.zip items).lookup name = items[i]? := by
  induction names generalizing i items with
  | nil => simp at h
  | cons first names ih =>
    obtain ⟨hfresh, hrest⟩ := List.nodup_cons.mp hnodup
    cases items with
    | nil => simp
    | cons v items =>
      cases i with
      | zero =>
        obtain rfl : first = name := by simpa using h
        simp
      | succ i =>
        rw [List.getElem?_cons_succ] at h
        have hne : name ≠ first := fun heq => hfresh (heq ▸ List.mem_of_getElem? h)
        rw [List.zip_cons_cons, lookup_cons_ne hne, ih hrest h, List.getElem?_cons_succ]

end

namespace Record

structure Makes (r : Record α) (found : List (String × Json)) (x : α) : Prop where
  checks : ∀ slot ∈ r.slots, ∀ v, found.lookup slot.name = some v → slot.check v = .ok ()
  required : ∀ slot ∈ r.slots, slot.required → (found.lookup slot.name).isSome
  build : r.build (fun name => found.lookup name) = .ok x

theorem Makes.field {reader : Reader α} {found : List (String × Json)} {name : String} {v : Json} {x : α}
    (h : found.lookup name = some v) (reads : reader v = .ok x) : (Record.field name reader).Makes found x where
  checks := by
    intro slot hslot u hu
    obtain rfl := List.mem_singleton.mp hslot
    obtain rfl : v = u := by simpa [h] using hu
    simp [reads, Except.map]
  required := by
    intro slot hslot _
    obtain rfl := List.mem_singleton.mp hslot
    simp [h]
  build := by simp [Record.field, h, reads]

theorem Makes.fieldD {reader : Reader α} {found : List (String × Json)} {name : String} {default x : α}
    (h : (found.lookup name = none ∧ x = default) ∨ ∃ v, found.lookup name = some v ∧ reader v = .ok x) :
    (Record.fieldD name reader default).Makes found x where
  checks := by
    intro slot hslot u hu
    obtain rfl := List.mem_singleton.mp hslot
    rcases h with ⟨hnone, -⟩ | ⟨v, hv, reads⟩
    · simp [hnone] at hu
    · obtain rfl : v = u := by simpa [hv] using hu
      simp [reads, Except.map]
  required := by
    intro slot hslot hrequired
    obtain rfl := List.mem_singleton.mp hslot
    cases hrequired
  build := by
    rcases h with ⟨hnone, rfl⟩ | ⟨v, hv, reads⟩
    · simp [Record.fieldD, hnone]
    · simp [Record.fieldD, hv, reads]

theorem Makes.field? {reader : Reader α} {found : List (String × Json)} {name : String} {x : Option α}
    (h : (found.lookup name = none ∧ x = none) ∨ ∃ v, found.lookup name = some v ∧ reader.optional v = .ok x) :
    (Record.field? name reader).Makes found x :=
  .fieldD h

theorem Makes.map {r : Record α} {found : List (String × Json)} {x : α} (h : r.Makes found x) (f : α → β) :
    (f <$> r).Makes found (f x) where
  checks := h.checks
  required := h.required
  build := by
    change (r.build fun name => found.lookup name).map f = _
    rw [h.build]
    rfl

theorem Makes.seq {r : Record (α → β)} {s : Record α} {found : List (String × Json)} {f : α → β} {x : α}
    (hr : r.Makes found f) (hs : s.Makes found x) : (r <*> s).Makes found (f x) where
  checks := by
    intro slot hslot
    rcases List.mem_append.mp hslot with hslot | hslot
    · exact hr.checks slot hslot
    · exact hs.checks slot hslot
  required := by
    intro slot hslot
    rcases List.mem_append.mp hslot with hslot | hslot
    · exact hr.required slot hslot
    · exact hs.required slot hslot
  build := by
    change (r.build _ >>= fun g => s.build _ >>= fun a => Pure.pure (g a)) = _
    rw [hr.build, hs.build]
    rfl

theorem slot?_eq_none {slots : List Slot} {name : String} (h : name ∉ slots.map (·.name)) :
    slot? slots name = none := by
  rw [slot?, List.find?_eq_none]
  intro slot hslot heq
  exact h (List.mem_map.mpr ⟨slot, hslot, by simpa using heq⟩)

theorem exists_slot? {slots : List Slot} {name : String} (h : name ∈ slots.map (·.name)) :
    ∃ slot ∈ slots, slot? slots name = some slot ∧ slot.name = name := by
  obtain ⟨slot, hslot⟩ : ∃ slot, slot? slots name = some slot := by
    rw [← Option.isSome_iff_exists, slot?, List.find?_isSome]
    obtain ⟨slot, hmem, rfl⟩ := List.mem_map.mp h
    exact ⟨slot, hmem, by simp⟩
  exact ⟨slot, List.mem_of_find?_eq_some hslot, hslot, by simpa using List.find?_some hslot⟩

theorem scanMembers_of_gives {slots : List Slot} {ms found} (h : Gives (slots.map (·.name)) ms found)
    (hcheck : ∀ slot ∈ slots, ∀ v, (slot.name, v) ∈ found → slot.check v = .ok ()) (seen : List String)
    (hseen : ∀ m ∈ found, m.1 ∉ seen) : scanMembers slots seen ms = .ok found := by
  induction h generalizing seen with
  | nil => rfl
  | @field key name v ms found text known fresh rest ih =>
    obtain ⟨slot, hmem, hslot, rfl⟩ := exists_slot? known
    have hnew : slot.name ∉ seen := hseen _ List.mem_cons_self
    have hv : slot.check v = .ok () := hcheck slot hmem v List.mem_cons_self
    have hrest : scanMembers slots (slot.name :: seen) ms = .ok found := by
      apply ih
      · intro other hother u hu
        exact hcheck other hother u (List.mem_cons_of_mem _ hu)
      · intro m hm hin
        rcases List.mem_cons.mp hin with heq | hin
        · exact fresh (List.mem_map.mpr ⟨m, hm, heq⟩)
        · exact hseen m (List.mem_cons_of_mem _ hm) hin
    simp [scanMembers, Reader.text, text, hslot, hnew, hv, hrest]
  | other text unknown sound rest ih =>
    simp [scanMembers, Reader.text, text, slot?_eq_none unknown, sound, ih hcheck seen hseen]

theorem scanItems_nil {short : Nat → ReadError} {slots : List Slot} (h : ∀ slot ∈ slots, slot.required = false)
    (position : Nat) : scanItems short position slots [] = .ok [] := by
  induction slots generalizing position with
  | nil => rfl
  | cons slot slots ih =>
    rw [scanItems, h slot List.mem_cons_self]
    exact ih (fun slot hslot => h slot (List.mem_cons_of_mem _ hslot)) (position + 1)

theorem scanItems_zip {short : Nat → ReadError} {slots : List Slot} {items : List Json}
    (hlength : items.length ≤ slots.length) (hrequired : ∀ slot ∈ slots.drop items.length, slot.required = false)
    (hcheck : ∀ slot ∈ slots, ∀ v, (slot.name, v) ∈ (slots.map (·.name)).zip items → slot.check v = .ok ())
    (position : Nat) : scanItems short position slots items = .ok ((slots.map (·.name)).zip items) := by
  induction items generalizing slots position with
  | nil => simpa using scanItems_nil (by simpa using hrequired) position
  | cons v items ih =>
    cases slots with
    | nil => simp at hlength
    | cons slot slots =>
      have hv : slot.check v = .ok () := hcheck slot List.mem_cons_self v List.mem_cons_self
      have hrest : scanItems short (position + 1) slots items = .ok ((slots.map (·.name)).zip items) := by
        apply ih
        · simpa using hlength
        · simpa using hrequired
        · intro other hother u hu
          exact hcheck other (List.mem_cons_of_mem _ hother) u (List.mem_cons_of_mem _ hu)
      simp [scanItems, hv, hrest]

theorem read_of_holds {r : Record α} {found} {x : α} (hx : r.Makes found x)
    (hnames : (r.slots.map (·.name)).Nodup) {v : Json} (h : Holds (r.slots.map (·.name)) v found) (title : String) :
    r.read title v = .ok x := by
  have hcheck : ∀ slot ∈ r.slots, ∀ u, (slot.name, u) ∈ found → slot.check u = .ok () := by
    intro slot hslot u hu
    exact hx.checks slot hslot u (lookup_eq_some_of_mem (h.nodup hnames) hu)
  have hscan : r.scan title v = .ok found := by
    cases h with
    | object gives => simp [scan, scanMembers_of_gives gives hcheck []]
    | @array items fits =>
      have hrequired : ∀ slot ∈ r.slots.drop items.length, slot.required = false := by
        intro slot hslot
        by_contra hne
        have hfound := hx.required slot (List.mem_of_mem_drop hslot) (by simpa using hne)
        obtain ⟨m, hm, heq⟩ := List.lookup_isSome_iff.mp hfound
        have htake : slot.name ∈ (r.slots.map (·.name)).take items.length := by
          rw [← map_fst_zip_eq_take, beq_iff_eq.mp heq]
          exact List.mem_map_of_mem hm
        have hdrop : slot.name ∈ (r.slots.map (·.name)).drop items.length := by
          rw [← List.map_drop]
          exact List.mem_map_of_mem hslot
        exact List.disjoint_take_drop hnames (Nat.le_refl _) htake hdrop
      simp [scan, scanItems_zip (by simpa using fits) hrequired hcheck]
  rw [read, hscan, ok_bind, hx.build]

theorem gives_of_scanMembers {slots : List Slot} {seen : List String} {ms found}
    (h : scanMembers slots seen ms = .ok found) :
    Gives (slots.map (·.name)) ms found ∧ ∀ m ∈ found, m.1 ∉ seen := by
  induction ms generalizing seen found with
  | nil =>
    cases h
    exact ⟨.nil, by simp⟩
  | cons m ms ih =>
    obtain ⟨_ | key, v⟩ := m
    · cases h
    · obtain ⟨name, htext, h⟩ := bind_eq_ok h
      have text : key.text? = some name := Reader.text_eq_ok_iff.mp htext
      split at h
      next slot hslot =>
        have hname : slot.name = name := by simpa using List.find?_some hslot
        have hknown : name ∈ slots.map (·.name) := List.mem_map.mpr ⟨slot, List.mem_of_find?_eq_some hslot, hname⟩
        by_cases hseen : name ∈ seen
        · simp only [List.contains_eq_mem, hseen, decide_true, if_true] at h
          cases h
        · simp only [List.contains_eq_mem, hseen, decide_false] at h
          obtain ⟨-, -, h⟩ := bind_eq_ok h
          obtain ⟨rest, hrest, h⟩ := bind_eq_ok h
          cases h
          obtain ⟨hgives, hfresh⟩ := ih hrest
          have hnew : name ∉ rest.map Prod.fst := by
            intro hin
            obtain ⟨m, hm, heq⟩ := List.mem_map.mp hin
            exact hfresh m hm (heq ▸ List.mem_cons_self)
          refine ⟨.field text hknown hnew hgives, ?_⟩
          intro m hm
          rcases List.mem_cons.mp hm with rfl | hm
          · exact hseen
          · exact fun hin => hfresh m hm (List.mem_cons_of_mem _ hin)
      next hslot =>
        have hunknown : name ∉ slots.map (·.name) := by
          intro hin
          obtain ⟨slot, -, hsome, -⟩ := exists_slot? hin
          rw [hslot] at hsome
          cases hsome
        split at h
        next sound =>
          obtain ⟨hgives, hfresh⟩ := ih h
          exact ⟨.other text hunknown sound hgives, hfresh⟩
        next => cases h

theorem eq_zip_of_scanItems {short : Nat → ReadError} {position : Nat} {slots : List Slot} {items : List Json} {found}
    (h : scanItems short position slots items = .ok found) :
    items.length ≤ slots.length ∧ found = (slots.map (·.name)).zip items := by
  induction slots generalizing position items found with
  | nil =>
    cases items with
    | nil =>
      cases h
      exact ⟨Nat.le_refl _, rfl⟩
    | cons v items => cases h
  | cons slot slots ih =>
    cases items with
    | nil =>
      rw [scanItems] at h
      split at h
      next => cases h
      next =>
        obtain ⟨-, rfl⟩ := ih h
        exact ⟨Nat.zero_le _, by simp⟩
    | cons v items =>
      obtain ⟨-, -, h⟩ := bind_eq_ok h
      obtain ⟨rest, hrest, h⟩ := bind_eq_ok h
      cases h
      obtain ⟨hlength, rfl⟩ := ih hrest
      exact ⟨Nat.succ_le_succ hlength, rfl⟩

theorem exists_holds {r : Record α} {title : String} {v : Json} {x : α} (h : r.read title v = .ok x) :
    ∃ found, Holds (r.slots.map (·.name)) v found ∧ r.build (fun name => found.lookup name) = .ok x := by
  obtain ⟨found, hscan, hbuild⟩ := bind_eq_ok h
  refine ⟨found, ?_, hbuild⟩
  cases v with
  | object ms closed =>
    obtain ⟨rfl, hmembers⟩ := closed_and_eq_ok hscan
    exact .object (gives_of_scanMembers hmembers).1
  | array items closed =>
    obtain ⟨rfl, hitems⟩ := closed_and_eq_ok hscan
    obtain ⟨hlength, rfl⟩ := eq_zip_of_scanItems hitems
    exact .array (by simpa using hlength)
  | _ => cases hscan

theorem build_field {name : String} {reader : Reader α} {find : String → Option Json} {x : α}
    (h : (field name reader).build find = .ok x) : ∃ v, find name = some v ∧ reader v = .ok x := by
  simp only [field] at h
  split at h
  next v hv => exact ⟨v, hv, h⟩
  next => cases h

theorem build_fieldD {name : String} {reader : Reader α} {default : α} {find : String → Option Json} {x : α}
    (h : (fieldD name reader default).build find = .ok x) :
    (find name = none ∧ x = default) ∨ ∃ v, find name = some v ∧ reader v = .ok x := by
  simp only [fieldD] at h
  split at h
  next v hv => exact .inr ⟨v, hv, h⟩
  next hnone =>
    cases h
    exact .inl ⟨hnone, rfl⟩

theorem build_field? {name : String} {reader : Reader α} {find : String → Option Json} {x : Option α}
    (h : (field? name reader).build find = .ok x) :
    (find name = none ∧ x = none) ∨ ∃ v, find name = some v ∧ reader.optional v = .ok x :=
  build_fieldD h

theorem build_map {r : Record α} {f : α → β} {find : String → Option Json} {y : β}
    (h : (f <$> r).build find = .ok y) : ∃ x, r.build find = .ok x ∧ f x = y := by
  change (r.build find).map f = _ at h
  cases hbuild : r.build find with
  | error e =>
    rw [hbuild] at h
    cases h
  | ok x =>
    rw [hbuild] at h
    cases h
    exact ⟨x, rfl, rfl⟩

theorem build_seq {r : Record (α → β)} {s : Record α} {find : String → Option Json} {y : β}
    (h : (r <*> s).build find = .ok y) : ∃ f x, r.build find = .ok f ∧ s.build find = .ok x ∧ f x = y := by
  obtain ⟨f, hf, h⟩ := bind_eq_ok h
  obtain ⟨x, hx, h⟩ := bind_eq_ok h
  cases h
  exact ⟨f, x, hf, hx, rfl⟩

end Record

end Json

end ChatGateway
