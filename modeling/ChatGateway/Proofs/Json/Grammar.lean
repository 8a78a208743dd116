import ChatGateway.Json.Document
import ChatGateway.Proofs.Json.Quoting
import ChatGateway.Proofs.Number.Numerals
import Mathlib.Data.List.TakeWhile

/-!
The texts of a value. The grammar leaves open where white space stands, how a power of ten is written and which
characters of a quoted text are escaped; whatever is chosen, the text is read as the value, and no other text is.
-/

namespace ChatGateway.Json

open Number (Numeral Stops digit? digitChar)

def Blank (s : List Char) : Prop := ∀ c ∈ s, isSpace c = true

structure Part where
  before : List Char
  value : Json
  text : List Char
  after : List Char

namespace Part

def chars (p : Part) : List Char := p.before ++ (p.text ++ p.after)

structure Spaced (p : Part) : Prop where
  before : Blank p.before
  after : Blank p.after

end Part

structure Entry where
  before : List Char
  key : List Char
  gap : List Char
  part : Part

namespace Entry

def chars (e : Entry) : List Char := e.before ++ '"' :: (e.key ++ '"' :: (e.gap ++ ':' :: e.part.chars))

def member (e : Entry) : Option Quoted × Json := (some ⟨e.key, true⟩, e.part.value)

structure Formed (e : Entry) : Prop where
  before : Blank e.before
  key : Quoted.Formed e.key
  gap : Blank e.gap
  part : e.part.Spaced

end Entry

def separated (ss : List (List Char)) : List Char := [','].intercalate ss

inductive Spells : Json → List Char → Prop
  | null : Spells .null "null".toList
  | bool (b : Bool) : Spells (.bool b) (toString b).toList
  | number {n : Numeral} {s : List Char} (spells : n.Spells s) : Spells (.number n) s
  | string {raw : List Char} (formed : Quoted.Formed raw) : Spells (.string ⟨raw, true⟩) ('"' :: (raw ++ ['"']))
  | noItems {gap : List Char} (blank : Blank gap) : Spells (.array [] true) ('[' :: (gap ++ [']']))
  | items {parts : List Part} (nonempty : parts ≠ []) (spaced : ∀ p ∈ parts, p.Spaced)
      (each : ∀ p ∈ parts, Spells p.value p.text) :
    Spells (.array (parts.map Part.value) true) ('[' :: (separated (parts.map Part.chars) ++ [']']))
  | noMembers {gap : List Char} (blank : Blank gap) : Spells (.object [] true) ('\x7b' :: (gap ++ ['\x7d']))
  | members {entries : List Entry} (nonempty : entries ≠ []) (formed : ∀ e ∈ entries, e.Formed)
      (each : ∀ e ∈ entries, Spells e.part.value e.part.text) :
    Spells (.object (entries.map Entry.member) true) ('\x7b' :: (separated (entries.map Entry.chars) ++ ['\x7d']))

def Denotes (text : String) (v : Json) : Prop :=
  ∃ before s after, text.toList = before ++ (s ++ after) ∧ Blank before ∧ Spells v s ∧ Blank after

theorem skipSpace_cons {c : Char} (h : isSpace c = false) (s : List Char) : skipSpace (c :: s) = c :: s := by
  simp [skipSpace, h]

theorem skipSpace_append {gap : List Char} (h : Blank gap) (s : List Char) : skipSpace (gap ++ s) = skipSpace s :=
  List.dropWhile_append_of_pos h

theorem exists_append_skipSpace (s : List Char) : ∃ gap, Blank gap ∧ s = gap ++ skipSpace s :=
  ⟨s.takeWhile isSpace, fun _ hc => List.mem_takeWhile_imp hc, List.takeWhile_append_dropWhile.symm⟩

theorem skipSpace_skipSpace (s : List Char) : skipSpace (skipSpace s) = skipSpace s := by
  obtain ⟨gap, hgap, hs⟩ := exists_append_skipSpace s
  calc skipSpace (skipSpace s) = skipSpace (gap ++ skipSpace s) := (skipSpace_append hgap _).symm
    _ = skipSpace s := by rw [← hs]

theorem exists_append_of_skipSpace {s t : List Char} (h : skipSpace s = t) : ∃ gap, Blank gap ∧ s = gap ++ t := by
  subst h
  exact exists_append_skipSpace s

theorem stops_cons {c : Char} (h : digit? c = none ∧ c ≠ '.' ∧ c ≠ 'e' ∧ c ≠ 'E') (s : List Char) :
    Stops (c :: s) := by
  intro d hd
  obtain rfl : c = d := by simpa using hd
  exact h

theorem stops_append {gap : List Char} (h : Blank gap) {s : List Char} (hs : Stops s) : Stops (gap ++ s) := by
  cases gap with
  | nil => exact hs
  | cons c gap =>
    refine stops_cons ?_ (gap ++ s)
    have hspace := h c List.mem_cons_self
    simp only [isSpace, Bool.or_eq_true, beq_iff_eq] at hspace
    obtain ((rfl | rfl) | rfl) | rfl := hspace <;> decide

structure Opens (c : Char) : Prop where
  visible : isSpace c = false
  notBracket : c ≠ ']'
  notBrace : c ≠ '\x7d'

instance : DecidablePred Opens := fun c =>
  decidable_of_iff (isSpace c = false ∧ c ≠ ']' ∧ c ≠ '\x7d') ⟨fun h => ⟨h.1, h.2.1, h.2.2⟩, fun h => ⟨h.1, h.2, h.3⟩⟩

theorem numeral_eq_cons {n : Numeral} {s : List Char} (h : n.Spells s) :
    ∃ c t, s = c :: t ∧ (c = '-' ∨ (digit? c).isSome) := by
  obtain @⟨power, proper, -⟩ := h
  obtain ⟨d, ds, hwhole⟩ := List.exists_cons_of_ne_nil proper.nonempty
  cases n.negative with
  | true => exact ⟨'-', _, rfl, .inl rfl⟩
  | false => exact ⟨digitChar d, _, by rw [hwhole]; rfl, .inr (by simp [Number.digit?_digitChar])⟩

theorem ne_of_isSome_digit? {c d : Char} (h : c = '-' ∨ (digit? c).isSome) (hd : d ≠ '-' ∧ digit? d = none) :
    c ≠ d := by
  rintro rfl
  rcases h with h | h
  · exact hd.1 h
  · simp [hd.2] at h

theorem opens_of_isSome_digit? {c : Char} (h : c = '-' ∨ (digit? c).isSome) : Opens c where
  visible := by
    have hspace := ne_of_isSome_digit? h (d := ' ') (by decide)
    have hline := ne_of_isSome_digit? h (d := '\n') (by decide)
    have htab := ne_of_isSome_digit? h (d := '\t') (by decide)
    have hreturn := ne_of_isSome_digit? h (d := '\r') (by decide)
    simp [isSpace, hspace, hline, htab, hreturn]
  notBracket := ne_of_isSome_digit? h (by decide)
  notBrace := ne_of_isSome_digit? h (by decide)

theorem Spells.eq_cons {v : Json} {s : List Char} (h : Spells v s) : ∃ c t, s = c :: t ∧ Opens c := by
  cases h with
  | null => exact ⟨'n', _, rfl, by decide⟩
  | bool b =>
    cases b with
    | true => exact ⟨'t', _, rfl, by decide⟩
    | false => exact ⟨'f', _, rfl, by decide⟩
  | number spells =>
    obtain ⟨c, t, hs, hc⟩ := numeral_eq_cons spells
    exact ⟨c, t, hs, opens_of_isSome_digit? hc⟩
  | string => exact ⟨'"', _, rfl, by decide⟩
  | noItems | items => exact ⟨'[', _, rfl, by decide⟩
  | noMembers | members => exact ⟨'\x7b', _, rfl, by decide⟩

/-! ### What the grammar allows is read -/

theorem value_skipSpace (fuel : Nat) (s : List Char) : value fuel (skipSpace s) = value fuel s := by
  cases fuel with
  | zero => rfl
  | succ fuel => rw [value, value, skipSpace_skipSpace]

theorem value_append {gap : List Char} (h : Blank gap) (fuel : Nat) (s : List Char) :
    value fuel (gap ++ s) = value fuel s := by
  rw [← value_skipSpace, skipSpace_append h, value_skipSpace]

theorem elements_skipSpace (fuel : Nat) (s : List Char) : elements fuel (skipSpace s) = elements fuel s := by
  cases fuel with
  | zero => rfl
  | succ fuel => rw [elements, elements, value_skipSpace]

theorem members_skipSpace (fuel : Nat) (s : List Char) : members fuel (skipSpace s) = members fuel s := by
  cases fuel with
  | zero => rfl
  | succ fuel => rw [members, members, skipSpace_skipSpace]

theorem value_numeral {c : Char} (h : c = '-' ∨ (digit? c).isSome) (fuel : Nat) (s : List Char) :
    value (fuel + 1) (c :: s) = numeral (c :: s) := by
  have hn := ne_of_isSome_digit? h (d := 'n') (by decide)
  have ht := ne_of_isSome_digit? h (d := 't') (by decide)
  have hf := ne_of_isSome_digit? h (d := 'f') (by decide)
  have hquote := ne_of_isSome_digit? h (d := '"') (by decide)
  have hbracket := ne_of_isSome_digit? h (d := '[') (by decide)
  have hbrace := ne_of_isSome_digit? h (d := '\x7b') (by decide)
  rw [value, skipSpace_cons (opens_of_isSome_digit? h).visible]
  split <;> simp_all

theorem value_bracket (fuel : Nat) {s : List Char} (h : (skipSpace s).head? ≠ some ']') :
    value (fuel + 1) ('[' :: s) = (.array (elements fuel s).1 (elements fuel s).2.isSome, (elements fuel s).2) := by
  rw [value, skipSpace_cons (by decide), ← elements_skipSpace fuel s]
  simp only
  split
  next hs => exact absurd (by rw [hs]; rfl) h
  next => rfl

theorem value_brace (fuel : Nat) {s : List Char} (h : (skipSpace s).head? ≠ some '\x7d') :
    value (fuel + 1) ('\x7b' :: s) =
      (.object (members fuel s).1 (members fuel s).2.isSome, (members fuel s).2) := by
  rw [value, skipSpace_cons (by decide), ← members_skipSpace fuel s]
  simp only
  split
  next hs => exact absurd (by rw [hs]; rfl) h
  next => rfl

def ReadsAs (v : Json) (s : List Char) : Prop :=
  ∀ fuel rest, 2 * s.length ≤ fuel + 1 → Stops rest → value fuel (s ++ rest) = (v, some rest)

theorem value_part {p : Part} (spaced : p.Spaced) (h : ReadsAs p.value p.text) {fuel : Nat}
    (hfuel : 2 * p.chars.length ≤ fuel + 1) {rest : List Char} (hrest : Stops rest) :
    value fuel (p.chars ++ rest) = (p.value, some (p.after ++ rest)) := by
  simp only [Part.chars, List.length_append] at hfuel
  rw [Part.chars, List.append_assoc, value_append spaced.before, List.append_assoc]
  exact h fuel _ (by omega) (stops_append spaced.after hrest)

theorem separated_cons_cons (s t : List Char) (ss : List (List Char)) :
    separated (s :: t :: ss) = s ++ ',' :: separated (t :: ss) := by
  rw [separated, List.intercalate_cons_cons, List.append_assoc]
  rfl

theorem separated_eq_append (s : List Char) (ss : List (List Char)) : ∃ more, separated (s :: ss) = s ++ more := by
  cases ss with
  | nil => exact ⟨[], by simp [separated]⟩
  | cons t ss => exact ⟨_, separated_cons_cons s t ss⟩

theorem head?_parts {parts : List Part} (hne : parts ≠ []) (spaced : ∀ p ∈ parts, p.Spaced)
    (each : ∀ p ∈ parts, Spells p.value p.text) (rest : List Char) :
    ∃ c, (skipSpace (separated (parts.map Part.chars) ++ rest)).head? = some c ∧ Opens c := by
  obtain ⟨p, parts, rfl⟩ := List.exists_cons_of_ne_nil hne
  obtain ⟨more, hmore⟩ := separated_eq_append p.chars (parts.map Part.chars)
  obtain ⟨c, t, htext, hc⟩ := (each p List.mem_cons_self).eq_cons
  refine ⟨c, ?_, hc⟩
  rw [List.map_cons, hmore, Part.chars, htext, List.append_assoc, List.append_assoc,
    skipSpace_append (spaced p List.mem_cons_self).before, List.cons_append, List.cons_append,
    skipSpace_cons hc.visible, List.head?_cons]

theorem head?_entries {entries : List Entry} (hne : entries ≠ []) (formed : ∀ e ∈ entries, e.Formed)
    (rest : List Char) : (skipSpace (separated (entries.map Entry.chars) ++ rest)).head? = some '"' := by
  obtain ⟨e, entries, rfl⟩ := List.exists_cons_of_ne_nil hne
  obtain ⟨more, hmore⟩ := separated_eq_append e.chars (entries.map Entry.chars)
  rw [List.map_cons, hmore, Entry.chars, List.append_assoc, List.append_assoc,
    skipSpace_append (formed e List.mem_cons_self).before, List.cons_append, skipSpace_cons (by decide),
    List.head?_cons]

theorem elements_separated {parts : List Part} (hne : parts ≠ []) (spaced : ∀ p ∈ parts, p.Spaced)
    (h : ∀ p ∈ parts, ReadsAs p.value p.text) (fuel : Nat) (rest : List Char)
    (hfuel : 2 * (separated (parts.map Part.chars)).length < fuel) :
    elements fuel (separated (parts.map Part.chars) ++ ']' :: rest) = (parts.map Part.value, some rest) := by
  induction parts generalizing fuel with
  | nil => exact absurd rfl hne
  | cons p parts ih =>
    obtain ⟨fuel, rfl⟩ : ∃ n, fuel = n + 1 := ⟨fuel - 1, by omega⟩
    have hspaced := spaced p List.mem_cons_self
    have hp := h p List.mem_cons_self
    cases parts with
    | nil =>
      simp only [List.map_cons, List.map_nil, separated, List.intercalate_singleton] at hfuel ⊢
      rw [elements, value_part hspaced hp (by omega) (stops_cons (by decide) rest)]
      simp only [skipSpace_append hspaced.after, skipSpace_cons (show isSpace ']' = false by decide)]
    | cons q parts =>
      simp only [List.map_cons, separated_cons_cons, List.length_append, List.length_cons] at hfuel
      have hrest := ih (by simp) (fun q hq => spaced q (List.mem_cons_of_mem _ hq))
        (fun q hq => h q (List.mem_cons_of_mem _ hq)) fuel (by simp only [List.map_cons]; omega)
      simp only [List.map_cons, separated_cons_cons, List.append_assoc, List.cons_append] at hrest ⊢
      rw [elements, value_part hspaced hp (by omega) (stops_cons (by decide) _)]
      simp only [skipSpace_append hspaced.after, skipSpace_cons (show isSpace ',' = false by decide), hrest]

def goOn (fuel : Nat) (m : Option Quoted × Json) (s : List Char) : List (Option Quoted × Json) × Option (List Char) :=
  match skipSpace s with
  | ',' :: s => (m :: (members fuel s).1, (members fuel s).2)
  | '\x7d' :: s => ([m], some s)
  | _ => ([m], none)

theorem members_entry {e : Entry} (formed : e.Formed) (h : ReadsAs e.part.value e.part.text) {fuel : Nat}
    (hfuel : 2 * e.chars.length ≤ fuel + 1) {rest : List Char} (hrest : Stops rest) :
    members (fuel + 1) (e.chars ++ rest) = goOn fuel e.member (e.part.after ++ rest) := by
  have hpart : 2 * e.part.chars.length ≤ fuel + 1 := by
    simp only [Entry.chars, List.length_append, List.length_cons] at hfuel
    omega
  have hvalue := value_part formed.part h hpart hrest
  simp only [Entry.chars, List.append_assoc, List.cons_append]
  rw [members, skipSpace_append formed.before, skipSpace_cons (by decide)]
  simp only [Quoted.scan_of_formed formed.key, if_true, skipSpace_append formed.gap,
    skipSpace_cons (show isSpace ':' = false by decide), hvalue]
  rfl

theorem members_separated {entries : List Entry} (hne : entries ≠ []) (formed : ∀ e ∈ entries, e.Formed)
    (h : ∀ e ∈ entries, ReadsAs e.part.value e.part.text) (fuel : Nat) (rest : List Char)
    (hfuel : 2 * (separated (entries.map Entry.chars)).length < fuel) :
    members fuel (separated (entries.map Entry.chars) ++ '\x7d' :: rest) =
      (entries.map Entry.member, some rest) := by
  induction entries generalizing fuel with
  | nil => exact absurd rfl hne
  | cons e entries ih =>
    obtain ⟨fuel, rfl⟩ : ∃ n, fuel = n + 1 := ⟨fuel - 1, by omega⟩
    have hformed := formed e List.mem_cons_self
    have he := h e List.mem_cons_self
    cases entries with
    | nil =>
      simp only [List.map_cons, List.map_nil, separated, List.intercalate_singleton] at hfuel ⊢
      rw [members_entry hformed he (by omega) (stops_cons (by decide) rest), goOn,
        skipSpace_append hformed.part.after, skipSpace_cons (by decide)]
      rfl
    | cons f entries =>
      simp only [List.map_cons, separated_cons_cons, List.length_append, List.length_cons] at hfuel
      have hrest := ih (by simp) (fun f hf => formed f (List.mem_cons_of_mem _ hf))
        (fun f hf => h f (List.mem_cons_of_mem _ hf)) fuel (by simp only [List.map_cons]; omega)
      simp only [List.map_cons, separated_cons_cons, List.append_assoc, List.cons_append] at hrest ⊢
      rw [members_entry hformed he (by omega) (stops_cons (by decide) _), goOn,
        skipSpace_append hformed.part.after, skipSpace_cons (by decide)]
      simp only [hrest]

theorem readsAs_of_succ {v : Json} {s : List Char} (h : Spells v s)
    (hv : ∀ fuel rest, 2 * s.length ≤ fuel + 2 → Stops rest → value (fuel + 1) (s ++ rest) = (v, some rest)) :
    ReadsAs v s := by
  intro fuel rest hfuel hrest
  obtain ⟨c, t, hs, -⟩ := h.eq_cons
  obtain ⟨n, rfl⟩ : ∃ n, fuel = n + 1 := ⟨fuel - 1, by rw [hs, List.length_cons] at hfuel; omega⟩
  exact hv n rest hfuel hrest

theorem readsAs_of_spells {v : Json} {s : List Char} (h : Spells v s) : ReadsAs v s := by
  induction h with
  | null => exact readsAs_of_succ .null fun fuel rest _ _ => rfl
  | bool b =>
    refine readsAs_of_succ (.bool b) fun fuel rest _ _ => ?_
    cases b <;> rfl
  | @number n s spells =>
    refine readsAs_of_succ (.number spells) fun fuel rest _ hrest => ?_
    obtain ⟨c, t, rfl, hc⟩ := numeral_eq_cons spells
    rw [List.cons_append, value_numeral hc, ← List.cons_append, numeral, Numeral.scan_spells spells hrest]
  | @string raw formed =>
    refine readsAs_of_succ (.string formed) fun fuel rest _ _ => ?_
    simp only [List.cons_append, List.append_assoc, List.nil_append]
    rw [value, skipSpace_cons (by decide)]
    simp only [quoted, Quoted.scan_of_formed formed, if_true]
  | @noItems gap blank =>
    refine readsAs_of_succ (.noItems blank) fun fuel rest _ _ => ?_
    simp only [List.cons_append, List.append_assoc, List.nil_append]
    rw [value, skipSpace_cons (by decide)]
    simp only [skipSpace_append blank, skipSpace_cons (show isSpace ']' = false by decide)]
  | @items parts nonempty spaced each ih =>
    refine readsAs_of_succ (.items nonempty spaced each) fun fuel rest hfuel _ => ?_
    simp only [List.length_append, List.length_cons, List.length_nil] at hfuel
    simp only [List.cons_append, List.append_assoc, List.nil_append]
    have hitems := elements_separated nonempty spaced ih fuel rest (by omega)
    obtain ⟨c, hc, hopens⟩ := head?_parts nonempty spaced each (']' :: rest)
    rw [value_bracket fuel (by rw [hc]; simpa using hopens.notBracket), hitems]
    rfl
  | @noMembers gap blank =>
    refine readsAs_of_succ (.noMembers blank) fun fuel rest _ _ => ?_
    simp only [List.cons_append, List.append_assoc, List.nil_append]
    rw [value, skipSpace_cons (by decide)]
    simp only [skipSpace_append blank, skipSpace_cons (show isSpace '\x7d' = false by decide)]
  | @members entries nonempty formed each ih =>
    refine readsAs_of_succ (.members nonempty formed each) fun fuel rest hfuel _ => ?_
    simp only [List.length_append, List.length_cons, List.length_nil] at hfuel
    simp only [List.cons_append, List.append_assoc, List.nil_append]
    have hmembers := members_separated nonempty formed ih fuel rest (by omega)
    rw [value_brace fuel (by rw [head?_entries nonempty formed]; simp), hmembers]
    rfl

/-! ### What is read is what the grammar allows -/

inductive Items : List Json → List Char → Prop
  | of {parts : List Part} (nonempty : parts ≠ []) (spaced : ∀ p ∈ parts, p.Spaced)
      (each : ∀ p ∈ parts, Spells p.value p.text) : Items (parts.map Part.value) (separated (parts.map Part.chars))

inductive Members : List (Option Quoted × Json) → List Char → Prop
  | of {entries : List Entry} (nonempty : entries ≠ []) (formed : ∀ e ∈ entries, e.Formed)
      (each : ∀ e ∈ entries, Spells e.part.value e.part.text) :
    Members (entries.map Entry.member) (separated (entries.map Entry.chars))

namespace Items

variable {p : Part}

theorem last (spaced : p.Spaced) (spells : Spells p.value p.text) : Items [p.value] p.chars := by
  have hitems := @Items.of [p] (by simp) (by simpa using spaced) (by simpa using spells)
  simpa [separated] using hitems

theorem cons (spaced : p.Spaced) (spells : Spells p.value p.text) {vs : List Json} {s : List Char} (h : Items vs s) :
    Items (p.value :: vs) (p.chars ++ ',' :: s) := by
  obtain @⟨parts, nonempty, hspaced, each⟩ := h
  obtain ⟨q, parts, rfl⟩ := List.exists_cons_of_ne_nil nonempty
  have hitems := @Items.of (p :: q :: parts) (by simp) (List.forall_mem_cons.mpr ⟨spaced, hspaced⟩)
    (List.forall_mem_cons.mpr ⟨spells, each⟩)
  simpa only [List.map_cons, separated_cons_cons] using hitems

end Items

namespace Members

variable {e : Entry}

theorem last (formed : e.Formed) (spells : Spells e.part.value e.part.text) : Members [e.member] e.chars := by
  have hmembers := @Members.of [e] (by simp) (by simpa using formed) (by simpa using spells)
  simpa [separated] using hmembers

theorem cons (formed : e.Formed) (spells : Spells e.part.value e.part.text) {ms : List (Option Quoted × Json)}
    {s : List Char} (h : Members ms s) : Members (e.member :: ms) (e.chars ++ ',' :: s) := by
  obtain @⟨entries, nonempty, hformed, each⟩ := h
  obtain ⟨f, entries, rfl⟩ := List.exists_cons_of_ne_nil nonempty
  have hmembers := @Members.of (e :: f :: entries) (by simp) (List.forall_mem_cons.mpr ⟨formed, hformed⟩)
    (List.forall_mem_cons.mpr ⟨spells, each⟩)
  simpa only [List.map_cons, separated_cons_cons] using hmembers

end Members

structure Takes (fuel : Nat) : Prop where
  value : ∀ {s rest v}, Json.value fuel s = (v, some rest) →
    ∃ gap text, s = gap ++ (text ++ rest) ∧ Blank gap ∧ Spells v text
  elements : ∀ {s rest vs}, Json.elements fuel s = (vs, some rest) → ∃ text, s = text ++ ']' :: rest ∧ Items vs text
  members : ∀ {s rest ms}, Json.members fuel s = (ms, some rest) →
    ∃ text, s = text ++ '\x7d' :: rest ∧ Members ms text

theorem takes_value {fuel : Nat} (h : Takes fuel) {s rest : List Char} {v : Json}
    (hv : value (fuel + 1) s = (v, some rest)) : ∃ gap text, s = gap ++ (text ++ rest) ∧ Blank gap ∧ Spells v text := by
  obtain ⟨gap, hgap, hs⟩ := exists_append_skipSpace s
  suffices htext : ∃ text, skipSpace s = text ++ rest ∧ Spells v text by
    obtain ⟨text, htext, hspells⟩ := htext
    exact ⟨gap, text, by rw [← htext, ← hs], hgap, hspells⟩
  rw [value] at hv
  split at hv
  next t ht =>
    cases hv
    exact ⟨_, ht, .null⟩
  next t ht =>
    cases hv
    exact ⟨_, ht, .bool true⟩
  next t ht =>
    cases hv
    exact ⟨_, ht, .bool false⟩
  next t ht =>
    rcases hscan : Quoted.scan t with ⟨⟨raw, _ | _⟩, after⟩
    · rw [quoted, hscan] at hv
      cases hv
    · rw [quoted, hscan] at hv
      cases hv
      obtain ⟨hformed, htext⟩ := Quoted.formed_of_scan hscan rfl
      exact ⟨_, by rw [ht, htext]; simp, .string hformed⟩
  next t ht =>
    split at hv
    next t' hbracket =>
      cases hv
      obtain ⟨gap', hgap', rfl⟩ := exists_append_of_skipSpace hbracket
      exact ⟨_, by rw [ht]; simp, .noItems hgap'⟩
    next =>
      rw [elements_skipSpace] at hv
      rcases helements : elements fuel t with ⟨vs, after⟩
      rw [helements] at hv
      cases hv
      obtain ⟨text, htext, @⟨parts, nonempty, spaced, each⟩⟩ := h.elements helements
      exact ⟨_, by rw [ht, htext]; simp, .items nonempty spaced each⟩
  next t ht =>
    split at hv
    next t' hbrace =>
      cases hv
      obtain ⟨gap', hgap', rfl⟩ := exists_append_of_skipSpace hbrace
      exact ⟨_, by rw [ht]; simp, .noMembers hgap'⟩
    next =>
      rw [members_skipSpace] at hv
      rcases hmembers : members fuel t with ⟨ms, after⟩
      rw [hmembers] at hv
      cases hv
      obtain ⟨text, htext, @⟨entries, nonempty, formed, each⟩⟩ := h.members hmembers
      exact ⟨_, by rw [ht, htext]; simp, .members nonempty formed each⟩
  next =>
    unfold numeral at hv
    split at hv
    next n after hscan =>
      cases hv
      obtain ⟨text, htext, hspells⟩ := Numeral.exists_spells_of_scan hscan
      exact ⟨text, htext, .number hspells⟩
    next => cases hv

theorem takes_elements {fuel : Nat} (h : Takes fuel) {s rest : List Char} {vs : List Json}
    (hvs : elements (fuel + 1) s = (vs, some rest)) : ∃ text, s = text ++ ']' :: rest ∧ Items vs text := by
  rw [elements] at hvs
  split at hvs
  next => cases hvs
  next v t hv =>
    obtain ⟨before, text, rfl, hbefore, hspells⟩ := h.value hv
    split at hvs
    next t' hcomma =>
      obtain ⟨after, hafter, rfl⟩ := exists_append_of_skipSpace hcomma
      rcases helements : elements fuel t' with ⟨vs', rest'⟩
      rw [helements] at hvs
      cases hvs
      obtain ⟨more, rfl, hitems⟩ := h.elements helements
      exact ⟨_, by simp [Part.chars], .cons (p := ⟨before, v, text, after⟩) ⟨hbefore, hafter⟩ hspells hitems⟩
    next t' hbracket =>
      cases hvs
      obtain ⟨after, hafter, rfl⟩ := exists_append_of_skipSpace hbracket
      exact ⟨_, by simp [Part.chars], .last (p := ⟨before, v, text, after⟩) ⟨hbefore, hafter⟩ hspells⟩
    next => cases hvs

theorem exists_of_goOn {fuel : Nat} {m : Option Quoted × Json} {s rest : List Char} {ms : List (Option Quoted × Json)}
    (h : goOn fuel m s = (ms, some rest)) :
    ∃ after, Blank after ∧ ((s = after ++ '\x7d' :: rest ∧ ms = [m]) ∨
      ∃ t ms', s = after ++ ',' :: t ∧ members fuel t = (ms', some rest) ∧ ms = m :: ms') := by
  unfold goOn at h
  split at h
  next t hcomma =>
    obtain ⟨after, hafter, hs⟩ := exists_append_of_skipSpace hcomma
    rcases hmembers : members fuel t with ⟨ms', rest'⟩
    rw [hmembers] at h
    cases h
    exact ⟨after, hafter, .inr ⟨t, ms', hs, hmembers, rfl⟩⟩
  next t hbrace =>
    cases h
    obtain ⟨after, hafter, hs⟩ := exists_append_of_skipSpace hbrace
    exact ⟨after, hafter, .inl ⟨hs, rfl⟩⟩
  next => cases h

theorem takes_members {fuel : Nat} (h : Takes fuel) {s rest : List Char} {ms : List (Option Quoted × Json)}
    (hms : members (fuel + 1) s = (ms, some rest)) : ∃ text, s = text ++ '\x7d' :: rest ∧ Members ms text := by
  rw [members] at hms
  split at hms
  next t hquote =>
    obtain ⟨before, hbefore, rfl⟩ := exists_append_of_skipSpace hquote
    rcases hscan : Quoted.scan t with ⟨⟨key, _ | _⟩, t'⟩
    · rw [hscan] at hms
      cases hms
    rw [hscan] at hms
    obtain ⟨hkey, rfl⟩ := Quoted.formed_of_scan hscan rfl
    simp only [if_true] at hms
    split at hms
    next u hcolon =>
      obtain ⟨gap, hgap, rfl⟩ := exists_append_of_skipSpace hcolon
      split at hms
      next => cases hms
      next v w hv =>
        obtain ⟨lead, text, rfl, hlead, hspells⟩ := h.value hv
        obtain ⟨after, hafter, ⟨rfl, rfl⟩ | ⟨t, ms', rfl, hmembers, rfl⟩⟩ := exists_of_goOn hms
        · have hlast := Members.last (e := ⟨before, key, gap, lead, v, text, after⟩)
            ⟨hbefore, hkey, hgap, hlead, hafter⟩ hspells
          exact ⟨_, by simp [Entry.chars, Part.chars], hlast⟩
        · obtain ⟨more, rfl, hmore⟩ := h.members hmembers
          have hcons := Members.cons (e := ⟨before, key, gap, lead, v, text, after⟩)
            ⟨hbefore, hkey, hgap, hlead, hafter⟩ hspells hmore
          exact ⟨_, by simp [Entry.chars, Part.chars], hcons⟩
    next => cases hms
  next => cases hms

theorem takes (fuel : Nat) : Takes fuel := by
  induction fuel with
  | zero =>
    refine ⟨?_, ?_, ?_⟩
    · intro s rest v hv
      cases hv
    · intro s rest vs hvs
      cases hvs
    · intro s rest ms hms
      cases hms
  | succ fuel ih => exact ⟨takes_value ih, takes_elements ih, takes_members ih⟩

theorem isEmpty_skipSpace_iff {s : List Char} : (skipSpace s).isEmpty = true ↔ Blank s := by
  rw [List.isEmpty_iff]
  exact List.dropWhile_eq_nil_iff

theorem parse_eq_iff {text : String} {v : Json} : Document.parse text = ⟨v, true⟩ ↔ Denotes text v := by
  rw [Document.parse]
  constructor
  · intro h
    rcases hvalue : value (2 * text.toList.length + 2) text.toList with ⟨u, _ | rest⟩
    · rw [hvalue] at h
      cases h
    · rw [hvalue] at h
      obtain ⟨rfl, hended⟩ := Document.mk.inj h
      obtain ⟨before, s, htext, hbefore, hspells⟩ := (takes _).value hvalue
      exact ⟨before, s, rest, htext, hbefore, hspells, isEmpty_skipSpace_iff.mp hended⟩
  · rintro ⟨before, s, after, htext, hbefore, hspells, hafter⟩
    have hstops : Stops after := by simpa using stops_append hafter (s := []) (by simp [Stops])
    have hvalue := readsAs_of_spells hspells (2 * text.toList.length + 2) after
      (by simp only [htext, List.length_append]; omega) hstops
    rw [← value_append hbefore, ← htext] at hvalue
    simp only [hvalue, Option.any_some, isEmpty_skipSpace_iff.mpr hafter]

theorem Denotes.unique {text : String} {u v : Json} (hu : Denotes text u) (hv : Denotes text v) : u = v :=
  (Document.mk.inj ((parse_eq_iff.mpr hu).symm.trans (parse_eq_iff.mpr hv))).1

end ChatGateway.Json
