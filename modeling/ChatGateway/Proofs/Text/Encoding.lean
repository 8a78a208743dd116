import ChatGateway.Text.Utf8
import Mathlib.Tactic.SplitIfs

namespace ChatGateway.Text.Utf8

theorem step_single : ∀ v < 128, step .whole (UInt8.ofNat v) = (.whole, some (Char.ofNat v)) := by
  decide

theorem step_pair : ∀ v < 32, 2 ≤ v → step .whole (UInt8.ofNat (v + 192)) = (.within v 1 1 0x80 0xBF, none) := by
  decide

theorem step_triple : ∀ v < 16, step .whole (UInt8.ofNat (v + 224)) =
    (.within v 1 2 (if v = 0 then 0xA0 else 0x80) (if v = 13 then 0x9F else 0xBF), none) := by
  decide

theorem step_quadruple : ∀ v < 5, step .whole (UInt8.ofNat (v + 240)) =
    (.within v 1 3 (if v = 0 then 0x90 else 0x80) (if v = 4 then 0x8F else 0xBF), none) := by
  decide

section Continuation

variable {bits seen v : Nat} {low high : UInt8}

theorem byte_within (hv : v < 64) (hlow : low.toNat ≤ v + 128) (hhigh : v + 128 ≤ high.toNat) :
    ¬(UInt8.ofNat (v + 128) < low || high < UInt8.ofNat (v + 128)) ∧ (UInt8.ofNat (v + 128)).toNat - 0x80 = v := by
  have hbyte : (UInt8.ofNat (v + 128)).toNat = v + 128 := by
    rw [UInt8.toNat_ofNat']
    omega
  constructor
  · simp only [Bool.or_eq_true, decide_eq_true_eq, UInt8.lt_iff_toNat_lt, hbyte]
    omega
  · omega

theorem step_last (hv : v < 64) (hlow : low.toNat ≤ v + 128) (hhigh : v + 128 ≤ high.toNat) :
    step (.within bits seen 1 low high) (UInt8.ofNat (v + 128)) = (.whole, some (Char.ofNat (bits * 64 + v))) := by
  obtain ⟨hin, hbits⟩ := byte_within hv hlow hhigh
  rw [step, if_neg hin, hbits]

theorem step_more (hv : v < 64) (hlow : low.toNat ≤ v + 128) (hhigh : v + 128 ≤ high.toNat) (missing : Nat) :
    step (.within bits seen (missing + 2) low high) (UInt8.ofNat (v + 128)) =
      (.within (bits * 64 + v) (seen + 1) (missing + 1) 0x80 0xBF, none) := by
  obtain ⟨hin, hbits⟩ := byte_within hv hlow hhigh
  rw [step, if_neg hin, hbits]

end Continuation

theorem run_cons {s t : State} {b : UInt8} {c : Option Char} (h : step s b = (t, c)) (bs : List UInt8) :
    run s (b :: bs) = (c.toList ++ (run t bs).1, (run t bs).2) := by
  simp only [run, h]

section Character

variable {v : Nat} (bs : List UInt8)

theorem run_single (hv : v < 0x80) :
    run .whole (UInt8.ofNat v :: bs) = (Char.ofNat v :: (run .whole bs).1, (run .whole bs).2) := by
  exact run_cons (step_single v hv) bs

theorem run_pair (hlow : 0x80 ≤ v) (hhigh : v < 0x800) :
    run .whole (UInt8.ofNat (v / 64 % 32 + 192) :: UInt8.ofNat (v % 64 + 128) :: bs) =
      (Char.ofNat v :: (run .whole bs).1, (run .whole bs).2) := by
  have hfirst := step_pair (v / 64 % 32) (by omega) (by omega)
  have hsecond : step (.within (v / 64 % 32) 1 1 0x80 0xBF) (UInt8.ofNat (v % 64 + 128)) = _ :=
    step_last (by omega) (by simp) (by simp; omega)
  have hv : v / 64 % 32 * 64 + v % 64 = v := by omega
  rw [run_cons hfirst, run_cons hsecond, hv]
  rfl

theorem run_triple (hlow : 0x800 ≤ v) (hhigh : v < 0x10000) (hvalid : v < 0xD800 ∨ 0xDFFF < v) :
    run .whole (UInt8.ofNat (v / 4096 % 16 + 224) :: UInt8.ofNat (v / 64 % 64 + 128) ::
        UInt8.ofNat (v % 64 + 128) :: bs) =
      (Char.ofNat v :: (run .whole bs).1, (run .whole bs).2) := by
  have hfirst := step_triple (v / 4096 % 16) (by omega)
  have hsecond : step (.within (v / 4096 % 16) 1 2 (if v / 4096 % 16 = 0 then 0xA0 else 0x80)
      (if v / 4096 % 16 = 13 then 0x9F else 0xBF)) (UInt8.ofNat (v / 64 % 64 + 128)) = _ :=
    step_more (by omega) (by split <;> simp; omega) (by split <;> simp <;> omega) 0
  have hthird : step (.within (v / 4096 % 16 * 64 + v / 64 % 64) (1 + 1) (0 + 1) 0x80 0xBF)
      (UInt8.ofNat (v % 64 + 128)) = _ := step_last (by omega) (by simp) (by simp; omega)
  have hv : (v / 4096 % 16 * 64 + v / 64 % 64) * 64 + v % 64 = v := by omega
  rw [run_cons hfirst, run_cons hsecond, run_cons hthird, hv]
  rfl

theorem run_quadruple (hlow : 0x10000 ≤ v) (hhigh : v < 0x110000) :
    run .whole (UInt8.ofNat (v / 262144 % 8 + 240) :: UInt8.ofNat (v / 4096 % 64 + 128) ::
        UInt8.ofNat (v / 64 % 64 + 128) :: UInt8.ofNat (v % 64 + 128) :: bs) =
      (Char.ofNat v :: (run .whole bs).1, (run .whole bs).2) := by
  have hfirst := step_quadruple (v / 262144 % 8) (by omega)
  have hsecond : step (.within (v / 262144 % 8) 1 3 (if v / 262144 % 8 = 0 then 0x90 else 0x80)
      (if v / 262144 % 8 = 4 then 0x8F else 0xBF)) (UInt8.ofNat (v / 4096 % 64 + 128)) = _ :=
    step_more (by omega) (by split <;> simp; omega) (by split <;> simp <;> omega) 1
  have hthird : step (.within (v / 262144 % 8 * 64 + v / 4096 % 64) (1 + 1) (1 + 1) 0x80 0xBF)
      (UInt8.ofNat (v / 64 % 64 + 128)) = _ := step_more (by omega) (by simp) (by simp; omega) 0
  have hfourth : step (.within ((v / 262144 % 8 * 64 + v / 4096 % 64) * 64 + v / 64 % 64) (1 + 1 + 1) (0 + 1) 0x80 0xBF)
      (UInt8.ofNat (v % 64 + 128)) = _ := step_last (by omega) (by simp) (by simp; omega)
  have hv : ((v / 262144 % 8 * 64 + v / 4096 % 64) * 64 + v / 64 % 64) * 64 + v % 64 = v := by omega
  rw [run_cons hfirst, run_cons hsecond, run_cons hthird, run_cons hfourth, hv]
  rfl

end Character

theorem run_encodeChar (c : Char) (bs : List UInt8) :
    run .whole (String.utf8EncodeChar c ++ bs) = (c :: (run .whole bs).1, (run .whole bs).2) := by
  have hvalid : c.val.toNat < 0xD800 ∨ 0xDFFF < c.val.toNat ∧ c.val.toNat < 0x110000 := c.valid
  have hchar : Char.ofNat c.val.toNat = c := Char.ofNat_toNat c
  unfold String.utf8EncodeChar
  generalize c.val.toNat = v at hchar hvalid
  subst hchar
  dsimp only
  -- The ranges that the second byte is held to are those of the shortest encodings of characters.
  split_ifs with single pair triple
  · exact run_single bs (by omega)
  · exact run_pair bs (by omega) (by omega)
  · exact run_triple bs (by omega) (by omega) (by omega)
  · exact run_quadruple bs (by omega) (by omega)

theorem run_encode (s : List Char) : run .whole (encode s) = (s, .whole) := by
  induction s with
  | nil => rfl
  | cons c s ih =>
    rw [encode, List.flatMap_cons, run_encodeChar, ← encode, ih]

end ChatGateway.Text.Utf8
