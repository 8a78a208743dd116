import ChatGateway.Number.Binary
import ChatGateway.Number.Numeral

/-!
The shortest decimal that is read back as a given binary number: on the coarsest decimal grid that has a point in
the interval of reals which round to the number, the point nearest to it. `Layout` says how it is written.
-/

namespace ChatGateway.Number

structure Decimal where
  coefficient : Nat
  exponent : Int
deriving DecidableEq, Repr

/-- The reals that round to a number, in quarters of its last place: the number itself and the ends of the
interval, which belong to it or not. -/
structure Basin where
  low : Nat
  centre : Nat
  high : Nat
  closed : Bool
  unit : Int

/-- Below the least significand of full width the numbers lie twice as close. -/
def Format.basin (f : Format) (m : Nat) (e : Int) : Basin where
  low := if m = Nat.pow 2 (f.width - 1) ∧ f.least < e then 4 * m - 1 else 4 * m - 2
  centre := 4 * m
  high := 4 * m + 2
  closed := m % 2 = 0
  unit := e - 2

namespace Basin

def gridUnit (b : Basin) (k : Int) : Ratio :=
  .div (.power 2 b.unit) (.power 10 k)

def holds (b : Basin) (u : Ratio) (n : Nat) : Bool :=
  if b.closed then b.low * u.num ≤ n * u.den && n * u.den ≤ b.high * u.num
  else b.low * u.num < n * u.den && n * u.den < b.high * u.num

def gridPoint (b : Basin) (k : Int) : Option Nat :=
  let u := b.gridUnit k
  let x : Ratio := .mul (.ofNat b.centre) u
  let n := x.floor
  match b.holds u n, b.holds u (n + 1) with
  | true, true => some x.nearest
  | true, false => some n
  | false, true => some (n + 1)
  | false, false => none

def scaleAbove (b : Basin) : Int :=
  (b.high.log2 + 1 + b.unit) * 30103 / 100000 + 1

/-- The grids to look at: no format here needs more digits than these. -/
def gridCount : Nat := 24

def shortest (b : Basin) : Decimal :=
  ((List.range gridCount).findSome? fun i : Nat =>
    (b.gridPoint (b.scaleAbove - i)).map (⟨·, b.scaleAbove - i⟩)).getD ⟨0, 0⟩

end Basin

structure Layout where
  least : Int
  greatest : Int

namespace Layout

def write (l : Layout) (negative : Bool) (d : Decimal) : Numeral :=
  let ds := digits d.coefficient
  let e := d.exponent + ds.length - 1
  if l.least ≤ e ∧ e ≤ l.greatest then
    if 0 ≤ d.exponent then ⟨negative, ds ++ List.replicate d.exponent.toNat zeroDigit, [zeroDigit], none⟩
    else if 0 ≤ e then ⟨negative, ds.take (e.toNat + 1), ds.drop (e.toNat + 1), none⟩
    else ⟨negative, [zeroDigit], List.replicate (-e - 1).toNat zeroDigit ++ ds, none⟩
  else ⟨negative, ds.take 1, ds.drop 1, some e⟩

end Layout

def Format.numeral? (f : Format) (l : Layout) : Binary → Option Numeral
  | .finite negative 0 _ => some ⟨negative, [zeroDigit], [zeroDigit], none⟩
  | .finite negative m e => some (l.write negative (f.basin m e).shortest)
  | .infinite _ => none

def singleLayout : Layout := ⟨-6, 12⟩

def doubleLayout : Layout := ⟨-5, 15⟩

end ChatGateway.Number
