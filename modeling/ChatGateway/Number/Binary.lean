/-!
Binary floating-point numbers, held as exact integers: a format is the width of its significands and the range of
its exponents, and `Format.round` takes a fraction to the nearest number of the format.
-/

namespace ChatGateway.Number

structure Format where
  width : Nat
  least : Int
  greatest : Int

def single : Format := ⟨24, -149, 104⟩

def double : Format := ⟨53, -1074, 971⟩

inductive Binary where
  | finite (negative : Bool) (significand : Nat) (exponent : Int)
  | infinite (negative : Bool)
deriving DecidableEq, Repr

structure Ratio where
  num : Nat
  den : Nat
deriving DecidableEq, Repr

namespace Ratio

def ofNat (n : Nat) : Ratio := ⟨n, 1⟩

def mul (x y : Ratio) : Ratio := ⟨x.num * y.num, x.den * y.den⟩

def div (x y : Ratio) : Ratio := ⟨x.num * y.den, x.den * y.num⟩

def power (base : Nat) (e : Int) : Ratio :=
  if 0 ≤ e then ⟨Nat.pow base e.toNat, 1⟩ else ⟨1, Nat.pow base (-e).toNat⟩

def floor (x : Ratio) : Nat := x.num / x.den

def nearest (x : Ratio) : Nat :=
  let n := x.num / x.den
  let r := x.num % x.den
  if 2 * r < x.den ∨ (2 * r = x.den ∧ n % 2 = 0) then n else n + 1

end Ratio

def Binary.magnitude : Binary → Ratio
  | .finite _ m e => .mul (.ofNat m) (.power 2 e)
  | .infinite _ => .ofNat 0

namespace Format

def zero (f : Format) (negative : Bool) : Binary :=
  .finite negative 0 f.least

def exponentOf (f : Format) (x : Ratio) : Int :=
  let e := max f.least (x.num.log2 - x.den.log2 - f.width)
  if Nat.pow 2 f.width ≤ (x.div (.power 2 e)).floor then e + 1 else e

def round (f : Format) (negative : Bool) (x : Ratio) : Binary :=
  if x.num = 0 then f.zero negative
  else
    let e := f.exponentOf x
    let m := (x.div (.power 2 e)).nearest
    let (m, e) := if m = Nat.pow 2 f.width then (Nat.pow 2 (f.width - 1), e + 1) else (m, e)
    if f.greatest < e then .infinite negative else .finite negative m e

def ofInt (f : Format) (i : Int) : Binary :=
  f.round (i < 0) (.ofNat i.natAbs)

def convert (f : Format) : Binary → Binary
  | .finite negative m e => f.round negative (Binary.finite negative m e).magnitude
  | .infinite negative => .infinite negative

end Format

end ChatGateway.Number
