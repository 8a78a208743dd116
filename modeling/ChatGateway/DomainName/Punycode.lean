/-!
Punycode: a label of a domain name written in ASCII. The other characters follow a hyphen, in ascending order, each
as the distance from the one before it; distances are numbers to the base 36 whose digits have thresholds. `encode`
writes a label, and `decode?` reads it back.
-/

namespace ChatGateway.DomainName.Punycode

def digitChar (n : Nat) : Char :=
  if n < 26 then Char.ofNat ('a'.toNat + n) else Char.ofNat ('0'.toNat + (n - 26))

def threshold (bias position : Nat) : Nat :=
  min 26 (max 1 (position - bias))

def digits (bias : Nat) : Nat → Nat → Nat → List Char
  | 0, _, _ => []
  | fuel + 1, position, n =>
    let t := threshold bias position
    if n < t then [digitChar n]
    else digitChar (t + (n - t) % (36 - t)) :: digits bias fuel (position + 36) ((n - t) / (36 - t))

def reduce : Nat → Nat → Nat × Nat
  | 0, n => (n, 0)
  | fuel + 1, n =>
    if n ≤ 455 then (n, 0)
    else
      let (m, k) := reduce fuel (n / 35)
      (m, k + 36)

def adapt (distance count : Nat) (first : Bool) : Nat :=
  let n := if first then distance / 700 else distance / 2
  let (n, k) := reduce 64 (n + n / count)
  k + 36 * n / (n + 38)

/-! ### Writing -/

structure State where
  distance : Nat
  bias : Nat
  written : Nat
  first : Bool
  text : List Char

def pass (n : Nat) (label : List Char) (s : State) : State :=
  label.foldl (fun s c =>
    if c.toNat < n then { s with distance := s.distance + 1 }
    else if c.toNat = n then
      { distance := 0
        bias := adapt s.distance (s.written + 1) s.first
        written := s.written + 1
        first := false
        text := s.text ++ digits s.bias 64 36 s.distance }
    else s) s

def passes (label : List Char) : List Nat → Nat → State → State
  | [], _, s => s
  | n :: ns, last, s =>
    let s := pass n label { s with distance := s.distance + (n - last) * (s.written + 1) }
    passes label ns (n + 1) { s with distance := s.distance + 1 }

def encode (label : List Char) : List Char :=
  let basic := label.filter fun c => c.toNat < 128
  let others := ((label.map Char.toNat).filter (128 ≤ ·)).mergeSort.eraseDups
  let s := passes label others 128 ⟨0, 72, basic.length, true, []⟩
  (if basic = [] then [] else basic ++ ['-']) ++ s.text

/-! ### Reading -/

def digit? (c : Char) : Option Nat :=
  if c.isLower then some (c.toNat - 'a'.toNat)
  else if c.isDigit then some (26 + (c.toNat - '0'.toNat))
  else none

def limit : Nat := 0x100000000

/-- A label being read: what is known of it, the number of the character inserted last, the place after that, and the
digits of the distance to the next one. -/
structure Reading where
  label : List Char
  last : Nat
  place : Nat
  bias : Nat
  distance : Nat
  position : Nat
  weight : Nat

def Reading.insert? (r : Reading) (distance : Nat) : Option Reading :=
  let count := r.label.length + 1
  let n := r.last + (r.place + distance) / count
  let i := (r.place + distance) % count
  if n.isValidChar then
    some {
      label := r.label.insertIdx i (Char.ofNat n)
      last := n
      place := i + 1
      bias := adapt distance count (r.place == 0)
      distance := 0
      position := 36
      weight := 1 }
  else none

def Reading.step? (r : Reading) (c : Char) : Option Reading := do
  let d ← digit? c
  let t := threshold r.bias r.position
  let distance := r.distance + d * r.weight
  let weight := r.weight * (36 - t)
  if limit ≤ r.place + distance then none
  else if d < t then r.insert? distance
  else if limit ≤ weight then none
  else return { r with distance, weight, position := r.position + 36 }

def parts (s : List Char) : List Char × List Char :=
  match s.reverse.span (· != '-') with
  | (digits, '-' :: basic) => if basic = [] then ([], s) else (basic.reverse, digits.reverse)
  | _ => ([], s)

def decode? (s : List Char) : Option (List Char) := do
  let (basic, digits) := parts s
  let r ← digits.foldlM Reading.step? ⟨basic, 128, 0, 72, 0, 36, 1⟩
  if r.position = 36 && basic.all (·.toNat < 128) then return r.label else none

end ChatGateway.DomainName.Punycode
