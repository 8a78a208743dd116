import ChatGateway.Json.Quoted
import Mathlib.Tactic.SplitIfs

namespace ChatGateway.Json

theorem hexDigit?_hexChar : ∀ n < 16, hexDigit? (Quoted.hexChar n) = some n := by
  decide

theorem hexUnit?_hexChar {n : Nat} (h : n < 256) :
    hexUnit? '0' '0' (Quoted.hexChar (n / 16)) (Quoted.hexChar (n % 16)) = some n := by
  have hhigh := hexDigit?_hexChar (n / 16) (by omega)
  have hlow := hexDigit?_hexChar (n % 16) (by omega)
  have hzero : hexDigit? '0' = some 0 := by decide
  have hn : ((0 * 16 + 0) * 16 + n / 16) * 16 + n % 16 = n := by omega
  simp only [hexUnit?, hhigh, hlow, hzero, bind, Option.bind, pure, hn]

namespace Quoted

inductive Writes (c : Char) : List Char → Prop
  | letter {d : Char} (known : escaped? d = some c) (notUnit : d ≠ 'u') : Writes c ['\\', d]
  | unit {x y : Char} (value : hexUnit? '0' '0' x y = some c.toNat) (small : c.toNat < 32) :
    Writes c ['\\', 'u', '0', '0', x, y]
  | plain (notQuote : c ≠ '"') (notBackslash : c ≠ '\\') (visible : ¬c < ' ') : Writes c [c]

theorem writes_escapeChar (c : Char) : Writes c (escapeChar c) := by
  unfold escapeChar
  split_ifs with hquote hbackslash hback hfeed hline hreturn htab hcontrol
  · subst hquote
    exact .letter rfl (by decide)
  · subst hbackslash
    exact .letter rfl (by decide)
  · subst hback
    exact .letter rfl (by decide)
  · subst hfeed
    exact .letter rfl (by decide)
  · subst hline
    exact .letter rfl (by decide)
  · subst hreturn
    exact .letter rfl (by decide)
  · subst htab
    exact .letter rfl (by decide)
  · have hsmall : c.toNat < 32 := hcontrol
    exact .unit (hexUnit?_hexChar (by omega)) hsmall
  · exact .plain hquote hbackslash hcontrol

inductive Piece : List Char → Prop
  | letter {d : Char} (known : (escaped? d).isSome) : Piece ['\\', d]
  | unit {x y z w : Char} (value : (hexUnit? x y z w).isSome) : Piece ['\\', 'u', x, y, z, w]
  | plain {c : Char} (notQuote : c ≠ '"') (notBackslash : c ≠ '\\') (visible : ¬c < ' ') : Piece [c]

theorem Writes.piece {c : Char} {cs : List Char} (h : Writes c cs) : Piece cs := by
  cases h with
  | letter known notUnit => exact .letter (by simp [known])
  | unit value small => exact .unit (by simp [value])
  | plain notQuote notBackslash visible => exact .plain notQuote notBackslash visible

theorem scan_append {cs : List Char} (h : Piece cs) (rest : List Char) :
    scan (cs ++ rest) = ((scan rest).1.push cs, (scan rest).2) := by
  cases h with
  | @letter d known =>
    obtain ⟨c, hc⟩ := Option.isSome_iff_exists.mp known
    have hunit : ∀ x y z w s, d = 'u' → rest = x :: y :: z :: w :: s → False := by
      rintro x y z w s rfl -
      cases hc
    rw [List.cons_append, List.cons_append, List.nil_append, scan.eq_3 _ _ hunit, hc]
  | unit value =>
    obtain ⟨n, hn⟩ := Option.isSome_iff_exists.mp value
    simp only [List.cons_append, List.nil_append, scan, hn]
  | @plain c notQuote notBackslash visible =>
    have hescape : ∀ d s, c = '\\' → rest = d :: s → False := fun _ _ hslash _ => notBackslash hslash
    have hunit : ∀ x y z w s, c = '\\' → rest = 'u' :: x :: y :: z :: w :: s → False :=
      fun _ _ _ _ _ hslash _ => notBackslash hslash
    rw [List.cons_append, List.nil_append, scan.eq_4 _ _ notQuote hunit hescape, if_neg visible]

inductive Formed : List Char → Prop
  | nil : Formed []
  | append {cs rest : List Char} (piece : Piece cs) (formed : Formed rest) : Formed (cs ++ rest)

theorem scan_of_formed {raw : List Char} (h : Formed raw) (rest : List Char) :
    scan (raw ++ '"' :: rest) = (⟨raw, true⟩, rest) := by
  induction h with
  | nil => rfl
  | append piece _ ih =>
    rw [List.append_assoc, scan_append piece, ih]
    rfl

theorem formed_of_scan {s rest : List Char} {q : Quoted} (h : scan s = (q, rest)) (hclosed : q.closed = true) :
    Formed q.raw ∧ s = q.raw ++ '"' :: rest := by
  fun_induction scan s generalizing q rest with
  | case1 s =>
    cases h
    exact ⟨.nil, rfl⟩
  | case2 a b c d s n hn q' rest' hscan ih =>
    cases h
    obtain ⟨hformed, hs⟩ := ih hscan hclosed
    exact ⟨.append (.unit (by simp [hn])) hformed, by simp [push, hs]⟩
  | case4 c s notUnit d hd q' rest' hscan ih =>
    cases h
    obtain ⟨hformed, hs⟩ := ih hscan hclosed
    exact ⟨.append (.letter (by simp [hd])) hformed, by simp [push, hs]⟩
  | case7 c s notQuote notUnit notEscape visible q' rest' hscan ih =>
    cases h
    have hclosed' : q'.closed = true := hclosed
    obtain ⟨hformed, hs⟩ := ih hscan hclosed'
    -- a backslash would be the last character, and what breaks off after it is not closed
    have notBackslash : c ≠ '\\' := by
      rintro rfl
      cases s with
      | nil =>
        cases hscan
        cases hclosed'
      | cons d s => exact notEscape d s rfl rfl
    exact ⟨.append (.plain notQuote notBackslash visible) hformed, by simp [push, hs]⟩
  | _ =>
    cases h
    cases hclosed

theorem unescape_append {c : Char} {cs : List Char} (h : Writes c cs) (rest : List Char) :
    unescape (cs ++ rest) = (unescape rest).map (c :: ·) := by
  rw [Option.map_eq_bind, Function.comp_def]
  cases h with
  | @letter d known notUnit =>
    have hunit : ∀ x y z w s, d = 'u' → rest = x :: y :: z :: w :: s → False := fun _ _ _ _ _ hu _ => notUnit hu
    rw [List.cons_append, List.cons_append, List.nil_append, unescape.eq_2 _ _ hunit, known]
    rfl
  | unit value small =>
    have hhigh : isHighSurrogate c.toNat = false := by
      simp only [isHighSurrogate, Bool.and_eq_false_iff, decide_eq_false_iff_not]
      omega
    have hlow : isLowSurrogate c.toNat = false := by
      simp only [isLowSurrogate, Bool.and_eq_false_iff, decide_eq_false_iff_not]
      omega
    simp [unescape, value, hhigh, hlow, Char.ofNat_toNat]
  | plain notQuote notBackslash visible =>
    have hescape : ∀ d s, c = '\\' → rest = d :: s → False := fun _ _ hslash _ => notBackslash hslash
    have hunit : ∀ x y z w s, c = '\\' → rest = 'u' :: x :: y :: z :: w :: s → False :=
      fun _ _ _ _ _ hslash _ => notBackslash hslash
    rw [List.cons_append, List.nil_append, unescape.eq_3 _ _ hunit hescape]
    rfl

theorem formed_escape (s : List Char) : Formed (escape s) := by
  induction s with
  | nil => exact .nil
  | cons c s ih =>
    rw [escape, List.flatMap_cons, ← escape]
    exact .append (writes_escapeChar c).piece ih

theorem scan_escape (s rest : List Char) : scan (escape s ++ '"' :: rest) = (⟨escape s, true⟩, rest) :=
  scan_of_formed (formed_escape s) rest

theorem unescape_escape (s : List Char) : unescape (escape s) = some s := by
  induction s with
  | nil => rfl
  | cons c s ih =>
    rw [escape, List.flatMap_cons, unescape_append (writes_escapeChar c), ← escape, ih, Option.map_some]

@[simp] theorem text?_ofText (s : String) : (ofText s).text? = some s := by
  rw [text?, ofText, if_pos rfl, unescape_escape, Option.map_some, String.ofList_toList]

end Quoted

end ChatGateway.Json
