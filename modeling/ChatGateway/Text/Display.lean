import ChatGateway.Text.Printable

namespace ChatGateway.Text

def hexDigits (n : Nat) : String :=
  String.ofList (Nat.toDigits 16 n)

def displayChar (c : Char) : String :=
  match c with
  | '"' => "\\\""
  | '\\' => "\\\\"
  | '\n' => "\\n"
  | '\r' => "\\r"
  | '\t' => "\\t"
  | '\x00' => "\\0"
  | c => if isPrintable c then c.toString else "\\u\x7b" ++ hexDigits c.toNat ++ "\x7d"

def display (s : String) : String :=
  "\"" ++ String.join (s.toList.map displayChar) ++ "\""

end ChatGateway.Text
