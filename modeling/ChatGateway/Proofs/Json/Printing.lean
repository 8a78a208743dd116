import ChatGateway.Json.Printer
import ChatGateway.Proofs.Json.Grammar

namespace ChatGateway.Json

open Number (Numeral)

def keyed (ms : List (Quoted × Json)) : List (Option Quoted × Json) := ms.map fun m => (some m.1, m.2)

/-- The values that a text can give without breaking off, as it writes them. -/
inductive Whole : Json → Prop
  | null : Whole .null
  | bool (b : Bool) : Whole (.bool b)
  | number {n : Numeral} (proper : n.Proper) : Whole (.number n)
  | string {q : Quoted} (scans : ∀ rest, Quoted.scan (q.raw ++ '"' :: rest) = (⟨q.raw, true⟩, rest))
      (closed : q.closed = true) : Whole (.string q)
  | array {items : List Json} (each : ∀ v ∈ items, Whole v) : Whole (.array items true)
  | object {members : List (Quoted × Json)}
      (keys : ∀ m ∈ members, Whole (.string m.1)) (each : ∀ m ∈ members, Whole m.2) :
    Whole (.object (keyed members) true)

theorem whole_ofText (s : String) : Whole (ofText s) :=
  .string (Quoted.scan_escape s.toList) rfl

theorem whole_ofOption {α : Type} {toJson : α → Json} (h : ∀ x, Whole (toJson x)) (x : Option α) :
    Whole (ofOption toJson x) := by
  cases x with
  | none => exact .null
  | some x => exact h x

theorem whole_record {members : List (String × Json)} (h : ∀ m ∈ members, Whole m.2) : Whole (record members) := by
  have heq : record members =
      .object (keyed (members.map fun m => (Quoted.ofText m.1, m.2))) true := by
    simp [record, keyed, Function.comp_def]
  rw [heq]
  refine .object ?_ ?_
  · intro m hm
    obtain ⟨p, hp, rfl⟩ := List.mem_map.mp hm
    exact whole_ofText p.1
  · intro m hm
    obtain ⟨p, hp, rfl⟩ := List.mem_map.mp hm
    exact h p hp

theorem exists_keyed {ms : List (Option Quoted × Json)} (h : ∀ m ∈ ms, ∃ key, m.1 = some key) :
    ∃ ms', ms = keyed ms' := by
  induction ms with
  | nil => exact ⟨[], rfl⟩
  | cons m ms ih =>
    obtain ⟨⟨key, hkey⟩, hrest⟩ := List.forall_mem_cons.mp h
    obtain ⟨ms', rfl⟩ := ih hrest
    exact ⟨(key, m.2) :: ms', by rw [keyed, keyed, List.map_cons, ← hkey]⟩

theorem whole_object_iff {ms : List (Option Quoted × Json)} :
    Whole (.object ms true) ↔ ∀ m ∈ ms, (∃ key, m.1 = some key ∧ Whole (.string key)) ∧ Whole m.2 := by
  constructor
  · intro h
    cases h with
    | object keys each =>
      rw [keyed, List.forall_mem_map]
      exact fun m hm => ⟨⟨m.1, rfl, keys m hm⟩, each m hm⟩
  · intro h
    obtain ⟨ms', rfl⟩ := exists_keyed fun m hm => (h m hm).1.imp fun _ hkey => hkey.1
    rw [keyed, List.forall_mem_map] at h
    refine .object ?_ fun m hm => (h m hm).2
    intro m hm
    obtain ⟨⟨key, hkey, hwhole⟩, -⟩ := h m hm
    cases hkey
    exact hwhole

theorem whole_array_iff {items : List Json} : Whole (.array items true) ↔ ∀ v ∈ items, Whole v :=
  ⟨fun h => by cases h; assumption, .array⟩

theorem keyed_eq_members (entries : List Entry) :
    keyed (entries.map fun e => (⟨e.key, true⟩, e.part.value)) = entries.map Entry.member := by
  rw [keyed, List.map_map]
  rfl

theorem whole_of_spells {v : Json} {s : List Char} (h : Spells v s) : Whole v := by
  have hstring : ∀ {raw : List Char}, Quoted.Formed raw → Whole (.string ⟨raw, true⟩) :=
    fun formed => .string (Quoted.scan_of_formed formed) rfl
  induction h with
  | null => exact .null
  | bool b => exact .bool b
  | number spells =>
    obtain ⟨proper, -⟩ := spells
    exact .number proper
  | string formed => exact hstring formed
  | noItems blank => exact .array (by simp)
  | items nonempty spaced each ih =>
    refine .array ?_
    simpa using ih
  | noMembers blank => exact @Whole.object [] (by simp) (by simp)
  | @members entries nonempty formed each ih =>
    rw [← keyed_eq_members]
    refine .object ?_ ?_
    · rw [List.forall_mem_map]
      exact fun e he => hstring (formed e he).key
    · rw [List.forall_mem_map]
      exact ih

theorem writtenItems_eq_separated (items : List Json) : writtenItems items = separated (items.map written) := by
  induction items with
  | nil => rfl
  | cons v items ih =>
    cases items with
    | nil => simp [writtenItems, separated]
    | cons w items =>
      rw [writtenItems.eq_3 _ _ (by simp), ih]
      simp only [List.map_cons, separated_cons_cons]

theorem writtenMembers_eq_separated (ms : List (Option Quoted × Json)) :
    writtenMembers ms = separated (ms.map writtenMember) := by
  induction ms with
  | nil => rfl
  | cons m ms ih =>
    cases ms with
    | nil => simp [writtenMembers, separated]
    | cons n ms =>
      rw [writtenMembers.eq_3 _ _ (by simp), ih]
      simp only [List.map_cons, separated_cons_cons]

theorem formed_of_whole {q : Quoted} (h : Whole (.string q)) : Quoted.Formed q.raw ∧ q.closed = true := by
  cases h with
  | string scans closed => exact ⟨(Quoted.formed_of_scan (scans []) rfl).1, closed⟩

def Part.tight (v : Json) : Part := ⟨[], v, v.written, []⟩

theorem Part.spaced_tight (v : Json) : (Part.tight v).Spaced := ⟨by simp [tight, Blank], by simp [tight, Blank]⟩

def Entry.tight (m : Quoted × Json) : Entry := ⟨[], m.1.raw, [], .tight m.2⟩

theorem Entry.formed_tight {m : Quoted × Json} (h : Whole (.string m.1)) : (tight m).Formed :=
  ⟨by simp [tight, Blank], (formed_of_whole h).1, by simp [tight, Blank], Part.spaced_tight m.2⟩

theorem Entry.member_tight {m : Quoted × Json} (h : Whole (.string m.1)) : (tight m).member = (some m.1, m.2) := by
  obtain ⟨⟨raw, closed⟩, v⟩ := m
  obtain rfl : closed = true := (formed_of_whole h).2
  rfl

theorem Entry.chars_tight {m : Quoted × Json} (h : Whole (.string m.1)) :
    (tight m).chars = writtenMember (some m.1, m.2) := by
  have hclosed := (formed_of_whole h).2
  simp [tight, Part.tight, chars, Part.chars, writtenMember, Quoted.written, hclosed]

theorem spells_written {v : Json} (h : Whole v) : Spells v v.written := by
  induction h with
  | null => exact .null
  | bool b => cases b <;> exact .bool _
  | number proper => exact .number (Numeral.spells_text proper)
  | @string q scans closed =>
    obtain ⟨raw, closed⟩ := q
    subst closed
    exact .string (formed_of_whole (.string scans rfl)).1
  | @array items each ih =>
    rw [written, writtenItems_eq_separated]
    by_cases hitems : items = []
    · subst hitems
      exact @Spells.noItems [] (by simp [Blank])
    · have hspells := @Spells.items (items.map Part.tight) (by simpa using hitems)
        (by simpa using fun v _ => Part.spaced_tight v) (by simpa [Part.tight] using ih)
      simpa [Function.comp_def, Part.tight, Part.chars, close] using hspells
  | @object ms keys each _ ih =>
    rw [written, writtenMembers_eq_separated]
    by_cases hms : ms = []
    · subst hms
      exact @Spells.noMembers [] (by simp [Blank])
    · have hmember : (ms.map Entry.tight).map Entry.member = keyed ms := by
        rw [List.map_map]
        exact List.map_congr_left fun m hm => Entry.member_tight (keys m hm)
      have hchars : (ms.map Entry.tight).map Entry.chars = (keyed ms).map writtenMember := by
        rw [keyed, List.map_map, List.map_map]
        exact List.map_congr_left fun m hm => Entry.chars_tight (keys m hm)
      have hspells := @Spells.members (ms.map Entry.tight) (by simpa using hms)
        (by rw [List.forall_mem_map]; exact fun m hm => Entry.formed_tight (keys m hm))
        (by rw [List.forall_mem_map]; exact ih)
      rwa [hmember, hchars] at hspells

theorem denotes_render {v : Json} (h : Whole v) : Denotes v.render v :=
  ⟨[], v.written, [], by simp [render], by simp [Blank], spells_written h, by simp [Blank]⟩

theorem parse_render {v : Json} (h : Whole v) : Document.parse v.render = ⟨v, true⟩ :=
  parse_eq_iff.mpr (denotes_render h)

end ChatGateway.Json
