import ChatGateway.Number.Numeral
import ChatGateway.Json.Quoted

/-!
JSON values, as far as a text gives them. A text that goes wrong somewhere still has a value up to that place:
the containers that are open there are not `closed`, and `broken` stands for the value that is not one.
-/

namespace ChatGateway

open Number

inductive Json where
  | null
  | bool (b : Bool)
  | number (n : Numeral)
  | string (s : Json.Quoted)
  | array (items : List Json) (closed : Bool)
  /-- Members in the order of the text; without a key, if another value stands in its place. -/
  | object (members : List (Option Json.Quoted × Json)) (closed : Bool)
  | broken
deriving Repr

namespace Json

def ofText (s : String) : Json := .string (.ofText s)

def ofInt (i : Int) : Json := .number (.ofInt i)

def ofNat (n : Nat) : Json := .ofInt n

def ofList (items : List Json) : Json := .array items true

def ofOption (toJson : α → Json) (x : Option α) : Json := (x.map toJson).getD .null

def record (members : List (String × Json)) : Json :=
  .object (members.map fun (name, value) => (some (.ofText name), value)) true

def member? (name : String) : Json → Option Json
  | .object members _ =>
    (members.reverse.find? fun (key, _) => key.bind Quoted.text? == some name).map (·.2)
  | _ => none

def text? : Json → Option String
  | .string s => s.text?
  | _ => none

def items : Json → List Json
  | .array items _ => items
  | _ => []

mutual

/-- The text is well formed throughout, numbers of any size and single surrogates included. -/
def sound : Json → Bool
  | .null | .bool _ | .number _ => true
  | .string s => s.closed
  | .array items closed => closed && soundItems items
  | .object members closed => closed && soundMembers members
  | .broken => false

def soundItems : List Json → Bool
  | [] => true
  | v :: vs => v.sound && soundItems vs

def soundMembers : List (Option Quoted × Json) → Bool
  | [] => true
  | (key, v) :: ms => key.any Quoted.closed && v.sound && soundMembers ms

end

end Json

end ChatGateway
