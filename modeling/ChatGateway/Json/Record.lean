import ChatGateway.Json.Reader

/-!
Reading records. A record is read from an object, whose members come in any order and among others, or from an
array of the fields in their order. `Record` is built up from its fields; `Record.read` first goes over the text and
checks each field where it stands, and then puts the record together.
-/

namespace ChatGateway.Json

structure Slot where
  name : String
  required : Bool
  check : Json → Except ReadError Unit

structure Record (α : Type) where
  slots : List Slot
  build : (String → Option Json) → Except ReadError α

namespace Record

def pure (x : α) : Record α := ⟨[], fun _ => .ok x⟩

def field (name : String) (reader : Reader α) : Record α where
  slots := [⟨name, true, fun v => (reader v).map fun _ => ()⟩]
  build find :=
    match find name with
    | some v => reader v
    | none => .error (.missingField name)

def fieldD (name : String) (reader : Reader α) (default : α) : Record α where
  slots := [⟨name, false, fun v => (reader v).map fun _ => ()⟩]
  build find :=
    match find name with
    | some v => reader v
    | none => .ok default

def field? (name : String) (reader : Reader α) : Record (Option α) :=
  fieldD name reader.optional none

def map (f : α → β) (r : Record α) : Record β :=
  ⟨r.slots, fun find => (r.build find).map f⟩

def seq (f : Record (α → β)) (x : Unit → Record α) : Record β where
  slots := f.slots ++ (x ()).slots
  build find := do
    let g ← f.build find
    let a ← (x ()).build find
    return g a

instance : Applicative Record where
  pure := Record.pure
  map := Record.map
  seq := Record.seq

def slot? (slots : List Slot) (name : String) : Option Slot :=
  slots.find? (·.name == name)

def scanMembers (slots : List Slot) (seen : List String) :
    List (Option Quoted × Json) → Except ReadError (List (String × Json))
  | [] => .ok []
  | (none, _) :: _ => .error .malformed
  | (some key, v) :: ms => do
    let name ← Reader.text (.string key)
    match slot? slots name with
    | some slot =>
      if seen.contains name then throw (.duplicateField name)
      slot.check v
      return (name, v) :: (← scanMembers slots (name :: seen) ms)
    | none =>
      if v.sound then scanMembers slots seen ms else throw .malformed

/-- Goes over the elements of an array, one for each field. A field that has to be there is named by its position
where the elements end before it. -/
def scanItems (short : Nat → ReadError) (position : Nat) :
    List Slot → List Json → Except ReadError (List (String × Json))
  | [], [] => .ok []
  | [], _ :: _ => .error .malformed
  | slot :: slots, [] =>
    if slot.required then .error (short position) else scanItems short (position + 1) slots []
  | slot :: slots, v :: vs => do
    slot.check v
    return (slot.name, v) :: (← scanItems short (position + 1) slots vs)

def scan (r : Record α) (name : String) : Json → Except ReadError (List (String × Json))
  | .object members closed => do
    let found ← scanMembers r.slots [] members
    if closed then return found else throw .malformed
  | .array items closed => do
    let short (position : Nat) : ReadError :=
      if closed then .wrongLength position name r.slots.length else .malformed
    let found ← scanItems short 0 r.slots items
    if closed then return found else throw .malformed
  | v => .error (v.mismatch (.record name))

def read (r : Record α) (name : String) : Reader α := fun v => do
  let found ← r.scan name v
  r.build fun field => found.lookup field

end Record

end ChatGateway.Json
