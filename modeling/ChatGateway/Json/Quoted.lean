/-!
Quoted JSON texts, kept as they are written. `Quoted.scan` accepts every escape that has the right form;
`Quoted.text?` also asks that the surrogates among them stand in pairs.
-/

namespace ChatGateway.Json

/-- A quoted text: the characters and escapes after the opening quote, as they are written, and whether they are
followed by the closing quote. -/
structure Quoted where
  raw : List Char
  closed : Bool
deriving DecidableEq, Repr

def hexDigit? (c : Char) : Option Nat :=
  if '0' ≤ c ∧ c ≤ '9' then some (c.toNat - '0'.toNat)
  else if 'a' ≤ c ∧ c ≤ 'f' then some (c.toNat - 'a'.toNat + 10)
  else if 'A' ≤ c ∧ c ≤ 'F' then some (c.toNat - 'A'.toNat + 10)
  else none

def hexUnit? (a b c d : Char) : Option Nat := do
  return (((← hexDigit? a) * 16 + (← hexDigit? b)) * 16 + (← hexDigit? c)) * 16 + (← hexDigit? d)

def escaped? : Char → Option Char
  | '"' => some '"'
  | '\\' => some '\\'
  | '/' => some '/'
  | 'b' => some '\x08'
  | 'f' => some '\x0c'
  | 'n' => some '\n'
  | 'r' => some '\r'
  | 't' => some '\t'
  | _ => none

namespace Quoted

def push (cs : List Char) (q : Quoted) : Quoted :=
  { q with raw := cs ++ q.raw }

def scan : List Char → Quoted × List Char
  | '"' :: s => (⟨[], true⟩, s)
  | '\\' :: 'u' :: a :: b :: c :: d :: s =>
    match hexUnit? a b c d with
    | some _ =>
      let (q, rest) := scan s
      (q.push ['\\', 'u', a, b, c, d], rest)
    | none => (⟨[], false⟩, [])
  | '\\' :: c :: s =>
    match escaped? c with
    | some _ =>
      let (q, rest) := scan s
      (q.push ['\\', c], rest)
    | none => (⟨[], false⟩, [])
  | c :: s =>
    if c < ' ' then (⟨[], false⟩, [])
    else
      let (q, rest) := scan s
      (q.push [c], rest)
  | [] => (⟨[], false⟩, [])

def isHighSurrogate (n : Nat) : Bool := 0xD800 ≤ n && n < 0xDC00

def isLowSurrogate (n : Nat) : Bool := 0xDC00 ≤ n && n < 0xE000

def unescape : List Char → Option (List Char)
  | '\\' :: 'u' :: a :: b :: c :: d :: s => do
    let n ← hexUnit? a b c d
    if isHighSurrogate n then
      match s with
      | '\\' :: 'u' :: a :: b :: c :: d :: s =>
        let m ← hexUnit? a b c d
        if isLowSurrogate m then
          return Char.ofNat (0x10000 + (n - 0xD800) * 0x400 + (m - 0xDC00)) :: (← unescape s)
        else none
      | _ => none
    else if isLowSurrogate n then none
    else return Char.ofNat n :: (← unescape s)
  | '\\' :: c :: s => do return (← escaped? c) :: (← unescape s)
  | c :: s => do return c :: (← unescape s)
  | [] => some []

def text? (q : Quoted) : Option String :=
  if q.closed then (unescape q.raw).map String.ofList else none

def hexChar (n : Nat) : Char :=
  if n < 10 then Char.ofNat ('0'.toNat + n) else Char.ofNat ('a'.toNat + (n - 10))

def escapeChar (c : Char) : List Char :=
  if c = '"' then ['\\', '"']
  else if c = '\\' then ['\\', '\\']
  else if c = '\x08' then ['\\', 'b']
  else if c = '\x0c' then ['\\', 'f']
  else if c = '\n' then ['\\', 'n']
  else if c = '\r' then ['\\', 'r']
  else if c = '\t' then ['\\', 't']
  else if c < ' ' then ['\\', 'u', '0', '0', hexChar (c.toNat / 16), hexChar (c.toNat % 16)]
  else [c]

def escape (s : List Char) : List Char :=
  s.flatMap escapeChar

def ofText (s : String) : Quoted :=
  ⟨escape s.toList, true⟩

end Quoted

end ChatGateway.Json
