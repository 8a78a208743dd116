import ChatGateway.DomainName.Basic
import ChatGateway.Http.Percent
import ChatGateway.Number.Numeral
import ChatGateway.Text.Split

namespace ChatGateway.Http

open Number (digit? digits digitChar)

inductive Host where
  | domain (name : List Char)
  | ipv4 (address : Nat)
  | ipv6 (pieces : List Nat)
deriving DecidableEq, Repr

namespace Host

def number? (base : Nat) (s : List Char) : Option Nat :=
  s.foldlM (fun n c => (Json.hexDigit? c).bind fun d => if d < base then some (base * n + d) else none) 0

/-! ### Addresses of version 4 -/

def part? : List Char → Option Nat
  | [] => none
  | '0' :: 'x' :: s | '0' :: 'X' :: s => number? 16 s
  | '0' :: s => number? 8 s
  | s => number? 10 s

def nameParts (name : List Char) : List (List Char) :=
  let parts := Text.split (· == '.') name
  if parts.length ≠ 1 && parts.getLast? = some [] then parts.dropLast else parts

def endsInNumber (name : List Char) : Bool :=
  match (nameParts name).getLast? with
  | some last => (last ≠ [] && last.all Char.isDigit) || (part? last).isSome
  | none => false

def ipv4? (name : List Char) : Option Host := do
  let numbers ← (nameParts name).mapM part?
  let last ← numbers.getLast?
  let initial := numbers.dropLast
  if 4 < numbers.length || initial.any (255 < ·) || Nat.pow 256 (4 - initial.length) ≤ last then none
  else
    let high := initial.foldl (fun n part => 256 * n + part) 0
    return .ipv4 (high * Nat.pow 256 (4 - initial.length) + last)

/-! ### Addresses of version 6 -/

def strictPart? (s : List Char) : Option Nat := do
  let n ← number? 10 s
  if s = [] || (1 < s.length && s.head? = some '0') || 255 < n then none else return n

def embedded? (s : List Char) : Option (List Nat) := do
  let [a, b, c, d] ← (Text.split (· == '.') s).mapM strictPart? | none
  return [256 * a + b, 256 * c + d]

/-- The pieces of an address, those already read coming first, and the place of the pieces that are left out. -/
def pieces? : Nat → List Char → List Nat → Option Nat → Option (List Nat × Option Nat)
  | 0, _, _, _ => none
  | _ + 1, [], read, gap => some (read, gap)
  | fuel + 1, s, read, gap =>
    if read.length = 8 then none
    else
      match s with
      | ':' :: s => if gap.isSome then none else pieces? fuel s read (some read.length)
      | s =>
        let hex := (s.take 4).takeWhile fun c => (Json.hexDigit? c).isSome
        match s.drop hex.length with
        | '.' :: _ =>
          if hex = [] || 6 < read.length then none
          else (embedded? s).map fun pieces => (read ++ pieces, gap)
        | ':' :: [] => none
        | ':' :: rest => (number? 16 hex).bind fun n => pieces? fuel rest (read ++ [n]) gap
        | [] => (number? 16 hex).map fun n => (read ++ [n], gap)
        | _ => none

def ipv6? (s : List Char) : Option Host := do
  let s ←
    match s with
    | ':' :: ':' :: s => some (':' :: s)
    | ':' :: _ => none
    | s => some s
  match ← pieces? (s.length + 1) s [] none with
  | (pieces, none) => if pieces.length = 8 then return .ipv6 pieces else none
  | (pieces, some gap) =>
    if pieces.length < 8 then
      return .ipv6 (pieces.take gap ++ List.replicate (8 - pieces.length) 0 ++ pieces.drop gap)
    else none

/-! ### Names -/

def isForbidden (c : Char) : Bool :=
  c.toNat ≤ 0x20 || c.toNat = 0x7F || "#/:<>?@[\\]^|%".toList.contains c

def domain? (s : List Char) : Option Host := do
  let s ← Text.Utf8.decode? (Percent.decode s)
  let name ← DomainName.toAscii? s
  if name = [] || name.any isForbidden then none
  else if endsInNumber name then ipv4? name
  else return .domain name

def parse? (s : List Char) : Option Host :=
  match s with
  | '[' :: s => if s.getLast? = some ']' then ipv6? s.dropLast else none
  | s => domain? s

/-! ### Writing -/

def decimal (n : Nat) : List Char := (digits n).map digitChar

def hex (n : Nat) : List Char := Nat.toDigits 16 n

def zeros (pieces : List Nat) : Nat := (pieces.takeWhile (· == 0)).length

def longestZeros (pieces : List Nat) : Nat × Nat :=
  (List.range pieces.length).foldl
    (fun best i =>
      let n := zeros (pieces.drop i)
      if best.2 < n then (i, n) else best)
    (0, 0)

def hexList (pieces : List Nat) : List Char := [':'].intercalate (pieces.map hex)

def text : Host → List Char
  | .domain name => name
  | .ipv4 address =>
    ['.'].intercalate ((List.range 4).map fun i => decimal (address / Nat.pow 256 (3 - i) % 256))
  | .ipv6 pieces =>
    let (i, n) := longestZeros pieces
    '[' :: (if n < 2 then hexList pieces
      else hexList (pieces.take i) ++ "::".toList ++ hexList (pieces.drop (i + n))) ++ [']']

end Host

end ChatGateway.Http
