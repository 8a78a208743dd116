import ChatGateway.Proofs.Number.Shortest
import Mathlib.Algebra.Order.Floor.Semifield
import Mathlib.Algebra.Order.Field.Power
import Mathlib.Data.Rat.Floor
import Mathlib.Tactic.FieldSimp
import Mathlib.Tactic.Linarith
import Mathlib.Tactic.Positivity
import Mathlib.Tactic.Ring

namespace ChatGateway.Number

namespace Ratio

def value (x : Ratio) : ℚ := x.num / x.den

theorem value_div (x y : Ratio) : (x.div y).value = x.value / y.value := by
  simp [value, div, div_div_div_eq]

theorem value_power (base : Nat) (e : Int) : (power base e).value = (base : ℚ) ^ e := by
  unfold power
  split
  next he =>
    have hnat : (base : ℚ) ^ e = (base : ℚ) ^ e.toNat := by
      rw [← zpow_natCast, Int.toNat_of_nonneg he]
    simp [value, hnat]
  next he =>
    have hnat : (base : ℚ) ^ e = ((base : ℚ) ^ (-e).toNat)⁻¹ := by
      rw [← zpow_natCast, ← zpow_neg, Int.toNat_of_nonneg (by omega), neg_neg]
    simp [value, hnat]

theorem value_nonneg (x : Ratio) : 0 ≤ x.value := div_nonneg x.num.cast_nonneg x.den.cast_nonneg

theorem floor_eq (x : Ratio) : x.floor = ⌊x.value⌋₊ := (Nat.floor_div_eq_div x.num x.den).symm

theorem value_eq_add {x : Ratio} (hden : 0 < x.den) :
    x.value = (x.num / x.den : Nat) + ((x.num % x.den : Nat) : ℚ) / x.den := by
  have hden' : (x.den : ℚ) ≠ 0 := by exact_mod_cast hden.ne'
  have hdivision : (x.num : ℚ) = x.den * (x.num / x.den : Nat) + (x.num % x.den : Nat) := by
    exact_mod_cast (Nat.div_add_mod x.num x.den).symm
  rw [value, hdivision]
  field_simp

theorem nearest_eq_iff {x : Ratio} (hden : 0 < x.den) {k : Nat} (heven : k % 2 = 0) (hk : x.value < k) :
    x.nearest = k ↔ (k : ℚ) - 1 / 2 ≤ x.value := by
  have hden' : (0 : ℚ) < x.den := by exact_mod_cast hden
  have hvalue := value_eq_add hden
  have hrest : ((x.num % x.den : Nat) : ℚ) / x.den < 1 := by
    rw [div_lt_one hden']
    exact_mod_cast Nat.mod_lt x.num hden
  have hhalf : ((x.num % x.den : Nat) : ℚ) / x.den < 1 / 2 ↔ 2 * (x.num % x.den) < x.den := by
    rw [div_lt_div_iff₀ hden' (by norm_num), one_mul, mul_comm]
    exact_mod_cast Iff.rfl
  have hnonneg : 0 ≤ ((x.num % x.den : Nat) : ℚ) / x.den := by positivity
  have hn : x.num / x.den < k := by
    have hcast : ((x.num / x.den : Nat) : ℚ) < k := by linarith
    exact_mod_cast hcast
  rw [nearest]
  generalize x.num / x.den = n at hvalue hn ⊢
  generalize x.num % x.den = r at hvalue hrest hhalf hnonneg ⊢
  by_cases hlast : n + 1 = k
  · have hodd : n % 2 ≠ 0 := by omega
    have hcast : (k : ℚ) = n + 1 := by exact_mod_cast hlast.symm
    by_cases hr : 2 * r < x.den
    · have hlow := hhalf.mpr hr
      rw [if_pos (.inl hr)]
      constructor
      · intro h
        omega
      · intro h
        linarith
    · have hhigh := not_lt.mp (mt hhalf.mp hr)
      rw [if_neg (by tauto)]
      exact ⟨fun _ => by linarith, fun _ => hlast⟩
  · have hcast : (n : ℚ) + 2 ≤ k := by exact_mod_cast (by omega : n + 2 ≤ k)
    constructor
    · intro h
      split at h <;> omega
    · intro h
      linarith

theorem value_lt_log2 {x : Ratio} (hden : 0 < x.den) :
    x.value < (2 : ℚ) ^ ((x.num.log2 : Int) - x.den.log2 + 1) := by
  have hden' : (0 : ℚ) < x.den := by exact_mod_cast hden
  have hnum : (x.num : ℚ) < 2 ^ ((x.num.log2 : Int) + 1) := by
    exact_mod_cast Nat.lt_log2_self (n := x.num)
  have hle : (2 : ℚ) ^ (x.den.log2 : Int) ≤ x.den := by
    exact_mod_cast Nat.log2_self_le hden.ne'
  have hsplit : (2 : ℚ) ^ ((x.num.log2 : Int) + 1) =
      2 ^ ((x.num.log2 : Int) - x.den.log2 + 1) * 2 ^ (x.den.log2 : Int) := by
    rw [← zpow_add₀ (by norm_num)]
    congr 1
    omega
  rw [value, div_lt_iff₀ hden']
  calc (x.num : ℚ) < 2 ^ ((x.num.log2 : Int) - x.den.log2 + 1) * 2 ^ (x.den.log2 : Int) := hsplit ▸ hnum
    _ ≤ 2 ^ ((x.num.log2 : Int) - x.den.log2 + 1) * x.den := by gcongr

theorem log2_le_value {x : Ratio} (hnum : 0 < x.num) (hden : 0 < x.den) :
    (2 : ℚ) ^ ((x.num.log2 : Int) - x.den.log2 - 1) ≤ x.value := by
  have hden' : (0 : ℚ) < x.den := by exact_mod_cast hden
  have hle : (2 : ℚ) ^ (x.num.log2 : Int) ≤ x.num := by
    exact_mod_cast Nat.log2_self_le hnum.ne'
  have hlt : (x.den : ℚ) < 2 ^ ((x.den.log2 : Int) + 1) := by
    exact_mod_cast Nat.lt_log2_self (n := x.den)
  have hsplit : (2 : ℚ) ^ (x.num.log2 : Int) =
      2 ^ ((x.num.log2 : Int) - x.den.log2 - 1) * 2 ^ ((x.den.log2 : Int) + 1) := by
    rw [← zpow_add₀ (by norm_num)]
    congr 1
    omega
  rw [value, le_div_iff₀ hden']
  calc (2 : ℚ) ^ ((x.num.log2 : Int) - x.den.log2 - 1) * x.den
      ≤ 2 ^ ((x.num.log2 : Int) - x.den.log2 - 1) * 2 ^ ((x.den.log2 : Int) + 1) := by gcongr
    _ ≤ x.num := hsplit ▸ hle

end Ratio

namespace Format

open Ratio

structure Fits (f : Format) (x : Ratio) (e : Int) : Prop where
  least : f.least ≤ e
  below : x.value < 2 ^ (e + f.width)
  full : f.least < e → (2 : ℚ) ^ (e + f.width - 1) ≤ x.value

theorem value_div_power (x : Ratio) (e : Int) : (x.div (power 2 e)).value = x.value / 2 ^ e := by
  rw [value_div, value_power]
  rfl

theorem le_floor_iff (f : Format) (x : Ratio) (e : Int) :
    Nat.pow 2 f.width ≤ (x.div (power 2 e)).floor ↔ (2 : ℚ) ^ (e + f.width) ≤ x.value := by
  have hpow : (0 : ℚ) < 2 ^ e := by positivity
  rw [floor_eq, Nat.le_floor_iff (value_nonneg _), value_div_power, le_div_iff₀ hpow,
    zpow_add₀ (by norm_num), mul_comm, zpow_natCast]
  norm_cast

theorem fits_exponentOf (f : Format) {x : Ratio} (hnum : 0 < x.num) (hden : 0 < x.den) : f.Fits x (f.exponentOf x) := by
  have hlt := value_lt_log2 hden
  have hle := log2_le_value hnum hden
  have hone : (1 : ℚ) ≤ 2 := by norm_num
  rw [exponentOf]
  generalize hstart : max f.least ((x.num.log2 : Int) - x.den.log2 - f.width) = e
  split
  next hfull =>
    refine ⟨by omega, ?_, fun _ => ?_⟩
    · exact hlt.trans_le (zpow_le_zpow_right₀ hone (by omega))
    · rw [show e + 1 + f.width - 1 = e + f.width by ring]
      exact (f.le_floor_iff x e).mp hfull
  next hbelow =>
    refine ⟨by omega, not_le.mp (mt (f.le_floor_iff x e).mpr hbelow), fun hleast => ?_⟩
    rwa [show e + f.width - 1 = (x.num.log2 : Int) - x.den.log2 - 1 by omega]

theorem round_eq (f : Format) (negative : Bool) {x : Ratio} (hnum : x.num ≠ 0) {e : Int} (he : f.exponentOf x = e)
    {n : Nat} (hn : (x.div (power 2 e)).nearest = n) :
    f.round negative x =
      if f.greatest < (if n = Nat.pow 2 f.width then e + 1 else e) then .infinite negative
      else if n = Nat.pow 2 f.width then .finite negative (Nat.pow 2 (f.width - 1)) (e + 1)
      else .finite negative n e := by
  subst he hn
  rw [round, if_neg hnum]
  dsimp only
  by_cases hfull : (x.div (power 2 (f.exponentOf x))).nearest = Nat.pow 2 f.width
  · -- rounded up to the next power of two, the significand is as wide as before with an exponent that is one more
    rw [if_pos hfull, if_pos hfull, if_pos hfull]
  · rw [if_neg hfull, if_neg hfull, if_neg hfull]

theorem round_cases (f : Format) (negative : Bool) (x : Ratio) :
    (∃ m e, f.round negative x = .finite negative m e) ∨ f.round negative x = .infinite negative := by
  by_cases hnum : x.num = 0
  · exact .inl ⟨_, _, by rw [round, if_pos hnum]; rfl⟩
  · rw [f.round_eq negative hnum rfl rfl]
    split_ifs
    · exact .inr rfl
    · exact .inl ⟨_, _, rfl⟩
    · exact .inr rfl
    · exact .inl ⟨_, _, rfl⟩

def limit (f : Format) : ℚ := (2 ^ f.width - 1 / 2) * 2 ^ f.greatest

theorem limit_le_of_lt (f : Format) {x : Ratio} {e : Int} (h : f.Fits x e) (hleast : f.least ≤ f.greatest)
    (he : f.greatest < e) : f.limit ≤ x.value := by
  have hpow : (0 : ℚ) < 2 ^ f.greatest := by positivity
  calc f.limit ≤ 2 ^ f.width * 2 ^ f.greatest := by rw [limit]; gcongr; norm_num
    _ = 2 ^ (f.greatest + f.width) := by rw [zpow_add₀ (by norm_num), zpow_natCast, mul_comm]
    _ ≤ 2 ^ (e + f.width - 1) := zpow_le_zpow_right₀ (by norm_num) (by omega)
    _ ≤ x.value := h.full (by omega)

theorem lt_limit_of_lt (f : Format) (hwidth : 0 < f.width) {x : Ratio} {e : Int} (h : f.Fits x e)
    (he : e < f.greatest) : x.value < f.limit := by
  have hpow : (0 : ℚ) < 2 ^ f.greatest := by positivity
  have hhalf : (2 : ℚ) ^ f.width = 2 * 2 ^ (f.width - 1) := by
    rw [← pow_succ', Nat.sub_add_cancel hwidth]
  have hone : (1 : ℚ) ≤ 2 ^ (f.width - 1) := one_le_pow₀ (by norm_num)
  calc x.value < 2 ^ (e + f.width) := h.below
    _ ≤ 2 ^ (f.greatest + (f.width - 1 : Nat)) := zpow_le_zpow_right₀ (by norm_num) (by omega)
    _ = 2 ^ (f.width - 1) * 2 ^ f.greatest := by rw [zpow_add₀ (by norm_num), zpow_natCast, mul_comm]
    _ ≤ f.limit := by
      rw [limit, hhalf]
      gcongr
      linarith

theorem nearest_eq_full_iff (f : Format) (hwidth : 0 < f.width) {x : Ratio} (hden : 0 < x.den)
    (h : f.Fits x f.greatest) : (x.div (power 2 f.greatest)).nearest = Nat.pow 2 f.width ↔ f.limit ≤ x.value := by
  have hpow : (0 : ℚ) < 2 ^ f.greatest := by positivity
  have hdivden : 0 < (x.div (power 2 f.greatest)).den := Nat.mul_pos hden (num_power_pos (by decide) _)
  have heven : Nat.pow 2 f.width % 2 = 0 := Nat.mod_eq_zero_of_dvd (dvd_pow_self 2 hwidth.ne')
  have hcast : ((Nat.pow 2 f.width : Nat) : ℚ) = 2 ^ f.width := by norm_cast
  have hbelow : (x.div (power 2 f.greatest)).value < (Nat.pow 2 f.width : Nat) := by
    rw [value_div_power, hcast, div_lt_iff₀ hpow, mul_comm, ← zpow_natCast, ← zpow_add₀ (by norm_num)]
    exact h.below
  rw [nearest_eq_iff hdivden heven hbelow, value_div_power, hcast, le_div_iff₀ hpow, limit]

theorem round_eq_infinite_iff (f : Format) (hwidth : 0 < f.width) (hleast : f.least ≤ f.greatest) (negative : Bool)
    {x : Ratio} (hden : 0 < x.den) : f.round negative x = .infinite negative ↔ f.limit ≤ x.value := by
  by_cases hnum : x.num = 0
  · have hpow : (0 : ℚ) < 2 ^ f.greatest := by positivity
    have hone : (1 : ℚ) ≤ 2 ^ f.width := one_le_pow₀ (by norm_num)
    have hlimit : 0 < f.limit := mul_pos (by linarith) hpow
    have hvalue : x.value = 0 := by simp [value, hnum]
    rw [round, if_pos hnum, hvalue]
    exact iff_of_false (by simp [zero]) (not_le.mpr hlimit)
  · have hfits := f.fits_exponentOf (Nat.pos_of_ne_zero hnum) hden
    rw [f.round_eq negative hnum rfl rfl]
    generalize f.exponentOf x = e at hfits
    rcases lt_trichotomy e f.greatest with hlow | rfl | hhigh
    · refine iff_of_false ?_ (not_le.mpr (f.lt_limit_of_lt hwidth hfits hlow))
      split_ifs <;> first | omega | simp
    · rw [← f.nearest_eq_full_iff hwidth hden hfits]
      split_ifs <;> first | omega | simp_all
    · refine iff_of_true ?_ (f.limit_le_of_lt hfits hleast hhigh)
      split_ifs <;> first | omega | rfl

end Format

theorem limit_single : single.limit = 2 ^ 128 - 2 ^ 103 := by
  have hpow : (2 : ℚ) ^ (104 : Int) = 2 ^ 104 := by norm_cast
  rw [Format.limit, single, hpow]
  norm_num

namespace Binary

inductive Finite : Binary → Prop
  | intro (negative : Bool) (m : Nat) (e : Int) : Finite (.finite negative m e)

theorem den_magnitude_pos (x : Binary) : 0 < x.magnitude.den := by
  cases x with
  | finite negative m e => exact Nat.mul_pos Nat.one_pos (Ratio.den_power_pos (by decide) e)
  | infinite negative => exact Nat.one_pos

theorem not_finite_infinite (negative : Bool) : ¬(infinite negative).Finite := by
  rintro ⟨⟩

theorem finite_round_iff (f : Format) (negative : Bool) (x : Ratio) :
    (f.round negative x).Finite ↔ f.round negative x ≠ .infinite negative := by
  rcases f.round_cases negative x with ⟨m, e, hround⟩ | hround
  · rw [hround]
    exact iff_of_true (.intro negative m e) (by simp)
  · rw [hround]
    exact iff_of_false (not_finite_infinite negative) (by simp)

theorem finite_single_iff (negative : Bool) {x : Ratio} (hden : 0 < x.den) :
    (single.round negative x).Finite ↔ x.value < 2 ^ 128 - 2 ^ 103 := by
  rw [finite_round_iff, ne_eq, single.round_eq_infinite_iff (by decide) (by decide) negative hden, limit_single, not_le]

end Binary

/-- The numeral stands for an integer of 64 bits, or for a double that is not too great to be rounded to a number of
the format `single`. -/
def Numeral.Moderate (n : Numeral) : Prop :=
  ∀ x, Literal.ofNumeral n = some (.double x) → x.Finite ∧ x.magnitude.value < 2 ^ 128 - 2 ^ 103

theorem Literal.natAbs_lt_of_ofNumeral {n : Numeral} {i : Int} (h : ofNumeral n = some (.integer i)) :
    i.natAbs < significandLimit := by
  unfold ofNumeral at h
  dsimp only at h
  split at h
  next hfits =>
    obtain rfl := Literal.integer.inj (Option.some.inj h)
    split <;> omega
  next =>
    obtain ⟨x, -, hx⟩ := Option.map_eq_some_iff.mp h
    cases hx

theorem finite_ofInt {i : Int} (h : i.natAbs < Literal.significandLimit) : (single.ofInt i).Finite := by
  rw [Format.ofInt, Binary.finite_single_iff _ Nat.one_pos]
  have hcast : (i.natAbs : ℚ) < 2 ^ 64 := by
    have hpow : i.natAbs < 2 ^ 64 := h
    exact_mod_cast hpow
  calc (Ratio.ofNat i.natAbs).value = i.natAbs := by simp [Ratio.value, Ratio.ofNat]
    _ < 2 ^ 64 := hcast
    _ ≤ 2 ^ 128 - 2 ^ 103 := by norm_num

end ChatGateway.Number
