namespace ChatGateway.Number

structure Numeral where
  negative : Bool
  whole : List (Fin 10)
  fraction : List (Fin 10)
  exponent : Option Int
deriving DecidableEq, Repr

def zeroDigit : Fin 10 := 0

def digit? (c : Char) : Option (Fin 10) :=
  if h : '0' ≤ c ∧ c ≤ '9' then
    some ⟨c.toNat - '0'.toNat, by
      have h₁ : '0'.toNat ≤ c.toNat := h.1
      have h₂ : c.toNat ≤ '9'.toNat := h.2
      have h₃ : '0'.toNat = 48 := rfl
      have h₄ : '9'.toNat = 57 := rfl
      omega⟩
  else none

def digitChar (d : Fin 10) : Char :=
  Char.ofNat ('0'.toNat + d)

def scanDigits : List Char → List (Fin 10) × List Char
  | [] => ([], [])
  | c :: s =>
    match digit? c with
    | some d =>
      let (ds, rest) := scanDigits s
      (d :: ds, rest)
    | none => ([], c :: s)

def ofDigits (ds : List (Fin 10)) : Nat :=
  ds.foldl (fun n d => 10 * n + d.val) 0

def digits (n : Nat) : List (Fin 10) :=
  if n < 10 then [Fin.ofNat 10 n] else digits (n / 10) ++ [Fin.ofNat 10 n]

namespace Numeral

def scanWhole (s : List Char) : Option (List (Fin 10) × List Char) :=
  match scanDigits s with
  | ([], _) => none
  | ([d], rest) => some ([d], rest)
  | (d :: ds, rest) => if d = zeroDigit then none else some (d :: ds, rest)

def scanFraction : List Char → Option (List (Fin 10) × List Char)
  | '.' :: s =>
    match scanDigits s with
    | ([], _) => none
    | (ds, rest) => some (ds, rest)
  | s => some ([], s)

def scanExponent (s : List Char) : Option (Option Int × List Char) :=
  match s with
  | 'e' :: s | 'E' :: s =>
    let (sign, s) : Int × List Char :=
      match s with
      | '+' :: s => (1, s)
      | '-' :: s => (-1, s)
      | s => (1, s)
    match scanDigits s with
    | ([], _) => none
    | (ds, rest) => some (some (sign * ofDigits ds), rest)
  | s => some (none, s)

def scan (s : List Char) : Option (Numeral × List Char) := do
  let (negative, s) :=
    match s with
    | '-' :: s => (true, s)
    | s => (false, s)
  let (whole, s) ← scanWhole s
  let (fraction, s) ← scanFraction s
  let (exponent, s) ← scanExponent s
  return (⟨negative, whole, fraction, exponent⟩, s)

def ofInt (i : Int) : Numeral :=
  ⟨i < 0, digits i.natAbs, [], none⟩

def exponentText (e : Int) : List Char :=
  'e' :: (if e < 0 then '-' else '+') :: (digits e.natAbs).map digitChar

def text (n : Numeral) : List Char :=
  (if n.negative then ['-'] else []) ++ n.whole.map digitChar ++
    (if n.fraction = [] then [] else '.' :: n.fraction.map digitChar) ++
    (n.exponent.map exponentText).getD []

end Numeral

end ChatGateway.Number
