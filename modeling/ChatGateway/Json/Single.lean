import ChatGateway.Json.Reader

namespace ChatGateway.Json

open Number

def Reader.single : Reader Binary
  | .number n =>
    match Literal.ofNumeral n with
    | some (.integer i) => .ok (Number.single.ofInt i)
    | some (.double x) => .ok (Number.single.convert x)
    | none => .error .malformed
  | v => .error (v.mismatch (.number "f32"))

def ofSingle (x : Binary) : Json :=
  ((Number.single.numeral? singleLayout x).map .number).getD .null

end ChatGateway.Json
