import ChatGateway.Json.ReadError

/-!
Readers of JSON values. A reader takes a value apart in the order of its text, so that its error is the first one
that the text has; on a value that breaks off it is an error in any case.
-/

namespace ChatGateway.Json

open Number

abbrev Reader (α : Type) := Json → Except ReadError α

namespace Reader

def text : Reader String
  | .string s =>
    match s.text? with
    | some t => .ok t
    | none => .error .malformed
  | v => .error (v.mismatch .string)

def integer (type : String) (least limit : Int) : Reader Int
  | .number n =>
    match Literal.ofNumeral n with
    | some (.integer i) =>
      if least ≤ i ∧ i < limit then .ok i else .error (.outOfRange i type)
    | some (.double x) => .error (.wrongType (.number (.double x)) (.number type))
    | none => .error .malformed
  | v => .error (v.mismatch (.number type))

def int32 : Reader Int32 := fun v =>
  (integer "i32" (-0x80000000) 0x80000000 v).map Int32.ofInt

def uint32 : Reader UInt32 := fun v =>
  (integer "u32" 0 0x100000000 v).map fun i => UInt32.ofNat i.toNat

def uint64 (type : String) : Reader UInt64 := fun v =>
  (integer type 0 0x10000000000000000 v).map fun i => UInt64.ofNat i.toNat

def optional (reader : Reader α) : Reader (Option α)
  | .null => .ok none
  | v => (reader v).map some

def list (reader : Reader α) : Reader (List α)
  | .array items closed => do
    let xs ← items.mapM reader
    if closed then return xs else throw .malformed
  | v => .error (v.mismatch .sequence)

def named (values : List (String × α)) (name : String) : Except ReadError α :=
  match values.lookup name with
  | some x => .ok x
  | none => .error (.unknownVariant name (values.map (·.1)))

def variant (values : List (String × α)) : Reader α
  | .string s => do named values (← text (.string s))
  | .object ((some key, v) :: rest) closed => do
    let x ← named values (← text (.string key))
    match v with
    | .null => if rest.isEmpty && closed then return x else throw .malformed
    | v => throw (v.mismatch .unit)
  | _ => .error .malformed

mutual

/-- The value can be held as a whole: it is well formed, its texts can be decoded, its numbers are in range, and
its containers are nested no deeper than the first argument says. -/
def holdable (depth : Nat) : Json → Bool
  | .null | .bool _ => true
  | .number n => (Literal.ofNumeral n).isSome
  | .string s => s.text?.isSome
  | .array items closed => 0 < depth && closed && holdableItems (depth - 1) items
  | .object members closed => 0 < depth && closed && holdableMembers (depth - 1) members
  | .broken => false

def holdableItems (depth : Nat) : List Json → Bool
  | [] => true
  | v :: vs => holdable depth v && holdableItems depth vs

def holdableMembers (depth : Nat) : List (Option Quoted × Json) → Bool
  | [] => true
  | (key, v) :: ms =>
    key.any (·.text?.isSome) && holdable depth v && holdableMembers depth ms

end

def greatestDepth : Nat := 127

/-- A text or a list of texts. The value is held as a whole before it is looked at, so that all that is wrong with
it comes first. -/
def oneOrMany (type : String) (one : String → α) (many : List String → α) : Reader α := fun v =>
  if holdable greatestDepth v then
    match text v, list text v with
    | .ok s, _ => .ok (one s)
    | _, .ok ss => .ok (many ss)
    | _, _ => .error (.noAlternative type)
  else .error .malformed

end Reader

end ChatGateway.Json
