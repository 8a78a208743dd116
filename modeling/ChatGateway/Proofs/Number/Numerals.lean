import ChatGateway.Number.Numeral
import Mathlib.Data.List.Basic

namespace ChatGateway.Number

def Stops (s : List Char) : Prop :=
  ∀ c, s.head? = some c → digit? c = none ∧ c ≠ '.' ∧ c ≠ 'e' ∧ c ≠ 'E'

theorem digit?_digitChar (d : Fin 10) : digit? (digitChar d) = some d := by
  revert d
  decide

theorem digitChar_ne {c : Char} (h : digit? c = none) (d : Fin 10) : digitChar d ≠ c := by
  rintro rfl
  simp [digit?_digitChar] at h

theorem scanDigits_map (ds : List (Fin 10)) {rest : List Char} (h : ∀ c, rest.head? = some c → digit? c = none) :
    scanDigits (ds.map digitChar ++ rest) = (ds, rest) := by
  induction ds with
  | nil =>
    cases rest with
    | nil => rfl
    | cons c rest => simp [scanDigits, h c rfl]
  | cons d ds ih => simp [scanDigits, digit?_digitChar, ih]

theorem digits_ne_nil (n : Nat) : digits n ≠ [] := by
  unfold digits
  split <;> simp

theorem ofDigits_concat (ds : List (Fin 10)) (d : Fin 10) : ofDigits (ds ++ [d]) = 10 * ofDigits ds + d := by
  simp [ofDigits]

theorem ofDigits_digits (n : Nat) : ofDigits (digits n) = n := by
  induction n using digits.induct with
  | case1 n h =>
    rw [digits, if_pos h]
    simp [ofDigits, Fin.ofNat, Nat.mod_eq_of_lt h]
  | case2 n h ih =>
    rw [digits, if_neg h, ofDigits_concat, ih]
    simp only [Fin.ofNat]
    omega

namespace Numeral

structure Proper (n : Numeral) : Prop where
  nonempty : n.whole ≠ []
  leading : n.whole.length ≠ 1 → n.whole.head? ≠ some zeroDigit

theorem scanWhole_map {n : Numeral} (h : n.Proper) {rest : List Char}
    (hrest : ∀ c, rest.head? = some c → digit? c = none) :
    scanWhole (n.whole.map digitChar ++ rest) = some (n.whole, rest) := by
  rw [scanWhole, scanDigits_map n.whole hrest]
  rcases hwhole : n.whole with _ | ⟨d, _ | ⟨e, ds⟩⟩
  · exact absurd hwhole h.nonempty
  · rfl
  · have hlead := h.leading
    rw [hwhole] at hlead
    have hd : d ≠ zeroDigit := by simpa using hlead
    simp [hd]

theorem scanFraction_map (ds : List (Fin 10)) {rest : List Char}
    (hdigit : ∀ c, rest.head? = some c → digit? c = none) (hpoint : rest.head? ≠ some '.') :
    scanFraction ((if ds = [] then [] else '.' :: ds.map digitChar) ++ rest) = some (ds, rest) := by
  split
  next hds =>
    subst hds
    cases rest with
    | nil => rfl
    | cons c rest =>
      have hc : c ≠ '.' := by simpa using hpoint
      rw [List.nil_append, scanFraction.eq_def]
      split
      next h => exact absurd (List.cons.inj h).1 hc
      next => rfl
  next hds =>
    rw [List.cons_append, scanFraction, scanDigits_map ds hdigit]
    cases ds with
    | nil => exact absurd rfl hds
    | cons d ds => rfl

inductive Sign : List Char → Int → Prop
  | absent : Sign [] 1
  | plus : Sign ['+'] 1
  | minus : Sign ['-'] (-1)

inductive Power : Option Int → List Char → Prop
  | absent : Power none []
  | written {mark : Char} {sign : List Char} {unit e : Int} {ds : List (Fin 10)} (marks : mark = 'e' ∨ mark = 'E')
      (signs : Sign sign unit) (nonempty : ds ≠ []) (value : e = unit * ofDigits ds) :
    Power (some e) (mark :: sign ++ ds.map digitChar)

theorem power_exponentText (e : Int) : Power (some e) (exponentText e) := by
  have hvalue := ofDigits_digits e.natAbs
  unfold exponentText
  split
  · exact .written (.inl rfl) .minus (digits_ne_nil _) (by omega)
  · exact .written (.inl rfl) .plus (digits_ne_nil _) (by omega)

theorem scanExponent_written {mark : Char} {sign : List Char} {unit : Int} {ds : List (Fin 10)}
    (marks : mark = 'e' ∨ mark = 'E') (signs : Sign sign unit) (nonempty : ds ≠ []) {rest : List Char}
    (h : ∀ c, rest.head? = some c → digit? c = none) :
    scanExponent (mark :: sign ++ ds.map digitChar ++ rest) = some (some (unit * ofDigits ds), rest) := by
  have hscan := scanDigits_map ds h
  obtain ⟨d, ds, rfl⟩ := List.exists_cons_of_ne_nil nonempty
  have hplus : digitChar d ≠ '+' := digitChar_ne (by decide) d
  have hminus : digitChar d ≠ '-' := digitChar_ne (by decide) d
  rw [List.map_cons, List.cons_append] at hscan
  rw [List.map_cons]
  rcases marks with rfl | rfl <;> cases signs <;> simp [scanExponent, hplus, hminus, hscan]

theorem scanExponent_none {rest : List Char} (h : Stops rest) : scanExponent rest = some (none, rest) := by
  cases rest with
  | nil => rfl
  | cons c rest =>
    obtain ⟨-, -, he, hE⟩ := h c rfl
    rw [scanExponent.eq_def]
    split
    next h => exact absurd (List.cons.inj h).1 he
    next h => exact absurd (List.cons.inj h).1 hE
    next => rfl

theorem scanExponent_power {e : Option Int} {power : List Char} (h : Power e power) {rest : List Char}
    (hrest : Stops rest) : scanExponent (power ++ rest) = some (e, rest) := by
  cases h with
  | absent => exact scanExponent_none hrest
  | written marks signs nonempty value =>
    rw [value]
    exact scanExponent_written marks signs nonempty fun c hc => (hrest c hc).1

theorem head?_power {e : Option Int} {power : List Char} (h : Power e power) {rest : List Char} (hrest : Stops rest)
    {c : Char} (hc : (power ++ rest).head? = some c) : digit? c = none ∧ c ≠ '.' := by
  cases h with
  | absent => exact ⟨(hrest c hc).1, (hrest c hc).2.1⟩
  | @written mark sign unit e ds marks signs nonempty value =>
    obtain rfl : mark = c := by simpa using hc
    rcases marks with rfl | rfl <;> decide

theorem head?_fraction (ds : List (Fin 10)) {rest : List Char} (h : ∀ c, rest.head? = some c → digit? c = none)
    {c : Char} (hc : ((if ds = [] then [] else '.' :: ds.map digitChar) ++ rest).head? = some c) :
    digit? c = none := by
  split at hc
  · exact h c hc
  · obtain rfl : '.' = c := by simpa using hc
    decide

theorem head?_whole {n : Numeral} (h : n.Proper) (rest : List Char) :
    (n.whole.map digitChar ++ rest).head? ≠ some '-' := by
  rcases hwhole : n.whole with _ | ⟨d, ds⟩
  · exact absurd hwhole h.nonempty
  · simpa using digitChar_ne (by decide) d

inductive Spells (n : Numeral) : List Char → Prop
  | parts {power : List Char} (proper : n.Proper) (powers : Power n.exponent power) :
    Spells n ((if n.negative then ['-'] else []) ++ n.whole.map digitChar ++
      (if n.fraction = [] then [] else '.' :: n.fraction.map digitChar) ++ power)

theorem spells_text {n : Numeral} (h : n.Proper) : n.Spells n.text := by
  refine .parts h ?_
  cases n.exponent with
  | none => exact .absent
  | some e => exact power_exponentText e

theorem scan_spells {n : Numeral} {text : List Char} (h : n.Spells text) {rest : List Char} (hrest : Stops rest) :
    scan (text ++ rest) = some (n, rest) := by
  obtain @⟨power, proper, powers⟩ := h
  have hexponent := scanExponent_power powers hrest
  have hexponentHead := fun c => head?_power powers hrest (c := c)
  have hfraction := scanFraction_map n.fraction (fun c hc => (hexponentHead c hc).1)
    fun hpoint => (hexponentHead '.' hpoint).2 rfl
  have hfractionHead := fun c => head?_fraction n.fraction (fun c hc => (hexponentHead c hc).1) (c := c)
  have hsplit : ∀ sign whole fraction : List Char, sign ++ whole ++ fraction ++ power ++ rest =
      sign ++ (whole ++ (fraction ++ (power ++ rest))) := by simp
  rw [hsplit]
  generalize hmiddle : (if n.fraction = [] then [] else '.' :: n.fraction.map digitChar) ++ (power ++ rest) = middle
    at hfraction hfractionHead
  have hwhole := scanWhole_map proper fun c hc => hfractionHead c hc
  have hsign := head?_whole proper middle
  obtain ⟨negative, whole, fraction, exponent⟩ := n
  generalize whole.map digitChar ++ middle = digits at hwhole hsign
  unfold scan
  cases negative with
  | true => simp [hwhole, hfraction, hexponent]
  | false =>
    cases digits with
    | nil => simp [hwhole, hfraction, hexponent]
    | cons c digits =>
      have hc : c ≠ '-' := by simpa using hsign
      simp [hc, hwhole, hfraction, hexponent]

theorem digitChar_of_digit? {c : Char} {d : Fin 10} (h : digit? c = some d) : c = digitChar d := by
  unfold digit? at h
  split at h
  next hc =>
    obtain rfl := Option.some.inj h
    have hlow : '0'.toNat ≤ c.toNat := hc.1
    have hvalue : '0'.toNat + (c.toNat - '0'.toNat) = c.toNat := by omega
    rw [digitChar, hvalue, Char.ofNat_toNat]
  next => cases h

theorem eq_append_of_scanDigits {s rest : List Char} {ds : List (Fin 10)} (h : scanDigits s = (ds, rest)) :
    s = ds.map digitChar ++ rest := by
  induction s generalizing ds with
  | nil =>
    cases h
    rfl
  | cons c s ih =>
    rw [scanDigits] at h
    cases hc : digit? c with
    | none =>
      rw [hc] at h
      cases h
      rfl
    | some d =>
      rw [hc] at h
      obtain ⟨rfl, rfl⟩ := Prod.mk.inj h
      rw [List.map_cons, List.cons_append, ← ih rfl, digitChar_of_digit? hc]

theorem scanWhole_eq_some {s rest : List Char} {ds : List (Fin 10)} (h : scanWhole s = some (ds, rest)) :
    s = ds.map digitChar ++ rest ∧ ds ≠ [] ∧ (ds.length ≠ 1 → ds.head? ≠ some zeroDigit) := by
  unfold scanWhole at h
  split at h
  next => cases h
  next d rest' hscan =>
    cases h
    exact ⟨eq_append_of_scanDigits hscan, by simp, by simp⟩
  next d ds' rest' _ hscan =>
    split at h
    next => cases h
    next hd =>
      cases h
      exact ⟨eq_append_of_scanDigits hscan, by simp, fun _ => by simpa using hd⟩

theorem scanFraction_eq_some {s rest : List Char} {ds : List (Fin 10)} (h : scanFraction s = some (ds, rest)) :
    s = (if ds = [] then [] else '.' :: ds.map digitChar) ++ rest := by
  unfold scanFraction at h
  split at h
  next s =>
    split at h
    next => cases h
    next ds' rest' hne hscan =>
      cases h
      rw [if_neg (by rintro rfl; exact hne rfl), List.cons_append, ← eq_append_of_scanDigits hscan]
  next =>
    cases h
    rfl

theorem power_of_scanDigits {mark : Char} {sign s t rest : List Char} {unit : Int} {e : Option Int}
    (marks : mark = 'e' ∨ mark = 'E') (signs : Sign sign unit) (hs : s = sign ++ t)
    (h : (match scanDigits t with
      | ([], _) => none
      | (ds, rest) => some (some (unit * ofDigits ds), rest)) = some (e, rest)) :
    ∃ power, mark :: s = power ++ rest ∧ Power e power := by
  split at h
  next => cases h
  next ds rest' hne hscan =>
    cases h
    refine ⟨mark :: sign ++ ds.map digitChar, ?_, .written marks signs (by rintro rfl; exact hne rfl) rfl⟩
    rw [hs, eq_append_of_scanDigits hscan, List.cons_append, List.cons_append, List.append_assoc]

theorem scanExponent_eq_some {s rest : List Char} {e : Option Int} (h : scanExponent s = some (e, rest)) :
    ∃ power, s = power ++ rest ∧ Power e power := by
  have hsigned : ∀ mark t, (mark = 'e' ∨ mark = 'E') → scanExponent ('e' :: t) = some (e, rest) →
      ∃ power, mark :: t = power ++ rest ∧ Power e power := by
    intro mark t marks h
    rw [scanExponent.eq_def] at h
    rcases t with _ | ⟨c, t⟩
    · cases h
    by_cases hplus : c = '+'
    · subst hplus
      exact power_of_scanDigits marks .plus rfl h
    by_cases hminus : c = '-'
    · subst hminus
      exact power_of_scanDigits marks .minus rfl h
    simp only [List.cons.injEq, hplus, hminus, false_and, imp_false, not_false_eq_true, implies_true] at h
    exact power_of_scanDigits marks .absent rfl h
  rw [scanExponent.eq_def] at h
  split at h
  next s => exact hsigned 'e' s (.inl rfl) h
  next s => exact hsigned 'E' s (.inr rfl) h
  next =>
    cases h
    exact ⟨[], rfl, .absent⟩

theorem exists_spells_of_scan {s rest : List Char} {n : Numeral} (h : scan s = some (n, rest)) :
    ∃ text, s = text ++ rest ∧ n.Spells text := by
  unfold scan at h
  split at h
  next negative t hsign =>
    obtain ⟨⟨whole, afterWhole⟩, hwhole, h⟩ := Option.bind_eq_some_iff.mp h
    obtain ⟨⟨fraction, afterFraction⟩, hfraction, h⟩ := Option.bind_eq_some_iff.mp h
    obtain ⟨⟨exponent, afterExponent⟩, hexponent, h⟩ := Option.bind_eq_some_iff.mp h
    cases h
    obtain ⟨hwholeText, hne, hlead⟩ := scanWhole_eq_some hwhole
    have hfractionText := scanFraction_eq_some hfraction
    obtain ⟨power, hpower, powers⟩ := scanExponent_eq_some hexponent
    have hs : s = (if negative then ['-'] else []) ++ t := by
      split at hsign <;> cases hsign <;> rfl
    refine ⟨_, ?_, .parts ⟨hne, hlead⟩ powers⟩
    simp only [hs, hwholeText, hfractionText, hpower, List.append_assoc]

end Numeral

end ChatGateway.Number
