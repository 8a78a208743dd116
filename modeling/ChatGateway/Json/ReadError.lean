import ChatGateway.Json.Basic
import ChatGateway.Number.Literal
import ChatGateway.Number.Shortest
import ChatGateway.Text.Display

namespace ChatGateway.Json

open Number

inductive Found where
  | null
  | boolean (b : Bool)
  | number (x : Literal)
  | string (s : String)
  | sequence
  | map
deriving DecidableEq, Repr

inductive Wanted where
  | string
  | sequence
  | map
  | unit
  | number (type : String)
  | record (name : String)
deriving DecidableEq, Repr

inductive ReadError where
  | malformed
  | wrongType (found : Found) (wanted : Wanted)
  | outOfRange (found : Int) (type : String)
  | keyNotNumber
  | duplicateField (name : String)
  | missingField (name : String)
  | wrongLength (found : Nat) (record : String) (fields : Nat)
  | unknownVariant (found : String) (known : List String)
  | noAlternative (type : String)
deriving DecidableEq, Repr

def doubleText (x : Binary) : String :=
  match double.numeral? doubleLayout x with
  | some n => String.ofList n.text
  | none => "inf"

def Found.describe : Found → String
  | .null => "null"
  | .boolean b => s!"boolean `{b}`"
  | .number (.integer i) => s!"integer `{i}`"
  | .number (.double x) => "floating point `" ++ doubleText x ++ "`"
  | .string s => "string " ++ Text.display s
  | .sequence => "sequence"
  | .map => "map"

def Wanted.describe : Wanted → String
  | .string => "a string"
  | .sequence => "a sequence"
  | .map => "a map"
  | .unit => "unit"
  | .number type => type
  | .record name => s!"struct {name}"

def oneOf (names : List String) : String :=
  match names.map fun name => s!"`{name}`" with
  | [name] => name
  | [name, other] => s!"{name} or {other}"
  | names => "one of " ++ ", ".intercalate names

def ReadError.message : ReadError → String
  | .malformed => "malformed JSON"
  | .wrongType found wanted => "invalid type: " ++ found.describe ++ ", expected " ++ wanted.describe
  | .outOfRange found type => s!"invalid value: integer `{found}`, expected {type}"
  | .keyNotNumber => "invalid value: expected key to be a number in quotes"
  | .duplicateField name => s!"duplicate field `{name}`"
  | .missingField name => s!"missing field `{name}`"
  | .wrongLength found record fields =>
    let elements := if fields = 1 then "element" else "elements"
    s!"invalid length {found}, expected struct {record} with {fields} {elements}"
  | .unknownVariant found known => s!"unknown variant `{found}`, expected " ++ oneOf known
  | .noAlternative type => s!"data did not match any variant of untagged enum {type}"

def found? : Json → Option Found
  | .null => some .null
  | .bool b => some (.boolean b)
  | .number n => (Literal.ofNumeral n).map .number
  | .string s => s.text?.map .string
  | .array .. => some .sequence
  | .object .. => some .map
  | .broken => none

def mismatch (wanted : Wanted) (v : Json) : ReadError :=
  (v.found?.map (.wrongType · wanted)).getD .malformed

end ChatGateway.Json
