import ChatGateway.Number.Literal
import ChatGateway.Number.Shortest
import ChatGateway.Proofs.Number.Numerals

namespace ChatGateway.Number

theorem head?_digits {n : Nat} (h : 0 < n) : (digits n).head? ≠ some zeroDigit := by
  induction n using digits.induct with
  | case1 n hn =>
    rw [digits, if_pos hn]
    simp [Fin.ofNat, zeroDigit, Fin.ext_iff]
    omega
  | case2 n hn ih =>
    rw [digits, if_neg hn, List.head?_append_of_ne_nil _ (digits_ne_nil _)]
    exact ih (by omega)

theorem length_digits {n : Nat} (h : (digits n).length ≠ 1) : 0 < n := by
  rw [digits] at h
  split at h
  · exact absurd rfl h
  · omega

theorem Numeral.proper_ofInt (i : Int) : (Numeral.ofInt i).Proper where
  nonempty := digits_ne_nil _
  leading h := head?_digits (length_digits h)

namespace Ratio

theorem num_power_pos {base : Nat} (h : 0 < base) (e : Int) : 0 < (power base e).num := by
  unfold power
  split
  · exact Nat.pow_pos h
  · exact Nat.one_pos

theorem den_power_pos {base : Nat} (h : 0 < base) (e : Int) : 0 < (power base e).den := by
  unfold power
  split
  · exact Nat.one_pos
  · exact Nat.pow_pos h

theorem floor_le_nearest (x : Ratio) : x.floor ≤ x.nearest := by
  unfold floor nearest
  dsimp only
  split <;> omega

end Ratio

namespace Basin

theorem pos_of_holds {b : Basin} {u : Ratio} {n : Nat} (hlow : 0 < b.low) (hu : 0 < u.num) (h : b.holds u n = true) :
    0 < n := by
  have hpos : 0 < b.low * u.num := Nat.mul_pos hlow hu
  rcases Nat.eq_zero_or_pos n with rfl | hn
  · unfold holds at h
    split at h
    · simp only [Nat.zero_mul, Bool.and_eq_true, decide_eq_true_eq] at h
      omega
    · simp only [Nat.zero_mul, Bool.and_eq_true, decide_eq_true_eq] at h
      omega
  · exact hn

theorem pos_of_gridPoint {b : Basin} {k : Int} {n : Nat} (hlow : 0 < b.low) (h : b.gridPoint k = some n) : 0 < n := by
  have hu : 0 < (b.gridUnit k).num :=
    Nat.mul_pos (Ratio.num_power_pos (by omega) _) (Ratio.den_power_pos (by omega) _)
  unfold gridPoint at h
  dsimp only at h
  generalize hx : Ratio.mul (.ofNat b.centre) (b.gridUnit k) = x at h
  split at h
  next hfirst hsecond =>
    obtain rfl := Option.some.inj h
    exact Nat.lt_of_lt_of_le (pos_of_holds hlow hu hfirst) x.floor_le_nearest
  next hfirst hsecond =>
    obtain rfl := Option.some.inj h
    exact pos_of_holds hlow hu hfirst
  next hfirst hsecond =>
    obtain rfl := Option.some.inj h
    exact Nat.succ_pos _
  next => cases h

theorem shortest_eq {b : Basin} (hlow : 0 < b.low) : 0 < b.shortest.coefficient ∨ b.shortest = ⟨0, 0⟩ := by
  unfold shortest
  generalize hfound : (List.range gridCount).findSome? _ = found
  cases found with
  | none => exact .inr rfl
  | some d =>
    obtain ⟨i, -, hi⟩ := List.exists_of_findSome?_eq_some hfound
    obtain ⟨n, hn, rfl⟩ := Option.map_eq_some_iff.mp hi
    exact .inl (pos_of_gridPoint hlow hn)

end Basin

theorem Layout.proper_write (l : Layout) (negative : Bool) {d : Decimal} (h : 0 < d.coefficient ∨ d = ⟨0, 0⟩) :
    (l.write negative d).Proper := by
  have hne := digits_ne_nil d.coefficient
  unfold write
  dsimp only
  split
  · split
    · constructor
      · simp [hne]
      · intro hlength
        rcases h with hpos | rfl
        · rw [List.head?_append_of_ne_nil _ hne]
          exact head?_digits hpos
        · have hzero : digits 0 = [zeroDigit] := by
            rw [digits]
            rfl
          simp [hzero] at hlength
    · split
      next hexponent _ =>
        have hpos : 0 < d.coefficient := by
          rcases h with hpos | rfl
          · exact hpos
          · exact absurd (Int.le_refl 0) hexponent
        constructor
        · simp [hne]
        · intro _
          rw [List.head?_take, if_neg (by omega)]
          exact head?_digits hpos
      next => exact ⟨by simp, fun hlength => absurd rfl hlength⟩
  · have hone : ((digits d.coefficient).take 1).length = 1 := by
      have hpos := List.length_pos_of_ne_nil hne
      rw [List.length_take]
      omega
    exact ⟨by simp [hne], fun hlength => absurd hone hlength⟩

theorem Format.proper_of_numeral? {f : Format} {l : Layout} {x : Binary} {n : Numeral} (h : f.numeral? l x = some n) :
    n.Proper := by
  unfold numeral? at h
  split at h
  next =>
    obtain rfl := Option.some.inj h
    exact ⟨by simp, fun hlength => absurd rfl hlength⟩
  next negative m e hm =>
    obtain rfl := Option.some.inj h
    have hpos : 0 < m := Nat.pos_of_ne_zero hm
    refine l.proper_write negative (Basin.shortest_eq ?_)
    simp only [basin]
    split <;> omega
  next => cases h

theorem Literal.ofNumeral_ofInt {i : Int} (hleast : -0x8000000000000000 ≤ i) (hlimit : i < 0x10000000000000000) :
    Literal.ofNumeral (.ofInt i) = some (.integer i) := by
  have hvalue : ofDigits (Numeral.ofInt i).whole = i.natAbs := ofDigits_digits _
  have hcondition : (Numeral.ofInt i).fraction = [] ∧ (Numeral.ofInt i).exponent = none ∧
      i.natAbs < significandLimit ∧
        ((Numeral.ofInt i).negative = true → 0 < i.natAbs ∧ i.natAbs ≤ 0x8000000000000000) := by
    refine ⟨rfl, rfl, ?_, ?_⟩
    · unfold significandLimit
      omega
    · intro hnegative
      have hi : i < 0 := of_decide_eq_true hnegative
      omega
  unfold ofNumeral
  dsimp only
  rw [hvalue, if_pos hcondition]
  simp only [Numeral.ofInt, decide_eq_true_eq]
  split <;> congr 2 <;> omega

end ChatGateway.Number
