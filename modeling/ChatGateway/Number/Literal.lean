import ChatGateway.Number.Binary
import ChatGateway.Number.Numeral

/-!
What a numeral stands for: an integer of 64 bits where it fits one, else a double. A double is found from the
leading digits that fit 64 bits by one multiplication or division with a power of ten, each rounded.
-/

namespace ChatGateway.Number

inductive Literal where
  | integer (i : Int)
  | double (x : Binary)
deriving DecidableEq, Repr

namespace Literal

def significandLimit : Nat := 0x10000000000000000

def absorbWhole (n : Nat) : List (Fin 10) → Nat × Nat
  | [] => (n, 0)
  | d :: ds =>
    if 10 * n + d < significandLimit then absorbWhole (10 * n + d) ds else (n, ds.length + 1)

def absorbFraction (n : Nat) : List (Fin 10) → Nat × Nat
  | [] => (n, 0)
  | d :: ds =>
    if 10 * n + d < significandLimit then
      let (m, k) := absorbFraction (10 * n + d) ds
      (m, k + 1)
    else (n, 0)

def tenPower (e : Nat) : Ratio :=
  (Number.double.round false (.ofNat (Nat.pow 10 e))).magnitude

def greatestTenPower : Nat := 308

def shrink (negative : Bool) (x : Binary) (e : Nat) : Binary :=
  Number.double.round negative (x.magnitude.div (tenPower e))

/-- The product `significand · 10 ^ e`: none where it is beyond the doubles. A power below all doubles is divided out in
two steps, and no more than two are needed to reach zero. -/
def scale (negative : Bool) (significand : Nat) (e : Int) : Option Binary :=
  let x := Number.double.round negative (.ofNat significand)
  if e > greatestTenPower then
    if significand = 0 then some x else none
  else if 0 ≤ e then
    match Number.double.round negative (x.magnitude.mul (tenPower e.toNat)) with
    | .infinite _ => none
    | y => some y
  else if -greatestTenPower ≤ e then some (shrink negative x (-e).toNat)
  else
    let y := shrink negative x greatestTenPower
    let rest := (-e).toNat - greatestTenPower
    some (if rest ≤ greatestTenPower then shrink negative y rest else Number.double.zero negative)

def exponentLimit : Int := 0x7FFFFFFF

def toDouble (n : Numeral) : Option Binary :=
  let (m, dropped) := absorbWhole 0 n.whole
  let (m, taken) := absorbFraction m n.fraction
  let e := n.exponent.getD 0
  if exponentLimit < e then
    if m = 0 then some (Number.double.zero n.negative) else none
  else if e < -exponentLimit then some (Number.double.zero n.negative)
  else scale n.negative m (dropped - taken + e)

/-- What a numeral is read as, if it is in range: an integer if it is written as one and is in
`-2 ^ 63 ..< 2 ^ 64`, with the exception of `-0`. -/
def ofNumeral (n : Numeral) : Option Literal :=
  let m := ofDigits n.whole
  if n.fraction = [] ∧ n.exponent = none ∧ m < significandLimit ∧
      (n.negative = true → 0 < m ∧ m ≤ 0x8000000000000000) then
    some (.integer (if n.negative then -m else m))
  else (toDouble n).map .double

end Literal

end ChatGateway.Number
