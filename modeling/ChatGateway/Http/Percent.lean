import ChatGateway.Json.Quoted
import ChatGateway.Text.Utf8

namespace ChatGateway.Http.Percent

def upperHexDigit (n : Nat) : Char :=
  if n < 10 then Char.ofNat ('0'.toNat + n) else Char.ofNat ('A'.toNat + (n - 10))

def encodeByte (b : UInt8) : List Char :=
  ['%', upperHexDigit (b.toNat / 16), upperHexDigit (b.toNat % 16)]

def encode (set : Char → Bool) (s : List Char) : List Char :=
  s.flatMap fun c =>
    if set c || c.toNat < 0x20 || 0x7E < c.toNat then (Text.Utf8.encode [c]).flatMap encodeByte
    else [c]

def decode : List Char → List UInt8
  | [] => []
  | '%' :: a :: b :: s =>
    match Json.hexDigit? a, Json.hexDigit? b with
    | some m, some n => UInt8.ofNat (16 * m + n) :: decode s
    | _, _ => '%'.toUInt8 :: decode (a :: b :: s)
  | c :: s => Text.Utf8.encode [c] ++ decode s

end ChatGateway.Http.Percent
