/-!
UTF-8, read one byte at a time. `Utf8.step` is the automaton: after each byte the input so far ends in a whole
character, within a character, or in bytes that no character begins with.
-/

namespace ChatGateway.Text.Utf8

inductive State where
  | whole
  /-- Within a character: its bits so far, the bytes read and still to come, the range of the next one. -/
  | within (bits seen missing : Nat) (low high : UInt8)
  /-- The first `width` of the bytes after the last whole character begin none that can be continued. -/
  | malformed (width : Nat)
deriving DecidableEq, Repr

def start (b : UInt8) : State × Option Char :=
  if b < 0x80 then (.whole, some (Char.ofNat b.toNat))
  else if b < 0xC2 then (.malformed 1, none)
  else if b < 0xE0 then (.within (b.toNat - 0xC0) 1 1 0x80 0xBF, none)
  else if b = 0xE0 then (.within 0 1 2 0xA0 0xBF, none)
  else if b = 0xED then (.within 0xD 1 2 0x80 0x9F, none)
  else if b < 0xF0 then (.within (b.toNat - 0xE0) 1 2 0x80 0xBF, none)
  else if b = 0xF0 then (.within 0 1 3 0x90 0xBF, none)
  else if b < 0xF4 then (.within (b.toNat - 0xF0) 1 3 0x80 0xBF, none)
  else if b = 0xF4 then (.within 4 1 3 0x80 0x8F, none)
  else (.malformed 1, none)

def step (s : State) (b : UInt8) : State × Option Char :=
  match s with
  | .whole => start b
  | .within bits seen missing low high =>
    if b < low || high < b then (.malformed seen, none)
    else
      let bits := bits * 64 + (b.toNat - 0x80)
      match missing with
      | 0 | 1 => (.whole, some (Char.ofNat bits))
      | missing + 2 => (.within bits (seen + 1) (missing + 1) 0x80 0xBF, none)
  | .malformed width => (.malformed width, none)

def run (s : State) : List UInt8 → List Char × State
  | [] => ([], s)
  | b :: bs =>
    let (s, c) := step s b
    let (cs, s) := run s bs
    (c.toList ++ cs, s)

def decode? (bytes : List UInt8) : Option (List Char) :=
  match run .whole bytes with
  | (cs, .whole) => some cs
  | _ => none

def decodeLossy (s : State) : List UInt8 → List Char
  | [] => if s = .whole then [] else ['\uFFFD']
  | b :: bs =>
    match step s b with
    | (.malformed _, _) =>
      match s, start b with
      | .whole, _ => '\uFFFD' :: decodeLossy .whole bs
      | _, (.malformed _, _) => '\uFFFD' :: '\uFFFD' :: decodeLossy .whole bs
      | _, (s, c) => '\uFFFD' :: (c.toList ++ decodeLossy s bs)
    | (s, c) => c.toList ++ decodeLossy s bs

def encode (s : List Char) : List UInt8 :=
  s.flatMap String.utf8EncodeChar

end ChatGateway.Text.Utf8
