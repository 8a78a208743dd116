import ChatGateway.DomainName.Direction
import ChatGateway.DomainName.Joining
import ChatGateway.DomainName.Mapping
import ChatGateway.DomainName.Punycode
import ChatGateway.Text.Composed
import ChatGateway.Text.Split

/-!
Domain names in any script, and how they are written in ASCII. `toAscii?` gives the ASCII form of a name if all its
labels are valid; a label that comes in that form is valid only if it is the form of a valid label.
-/

namespace ChatGateway.DomainName

def encodedMark : List Char := "xn--".toList

def isAscii (s : List Char) : Bool := s.all (·.toNat < 128)

def greatestEncodedLength : Nat := 2000

def greatestLength : Nat := 1000

/-- A label decoded: none if it is encoded for nothing, or stands for one that is written in another way. -/
def decodeLabel? (s : List Char) : Option (List Char) := do
  if greatestEncodedLength < s.length then none
  let label ← Punycode.decode? s
  if isAscii label || !label.all isPlain || Text.composed label ≠ label then none else return label

def readLabel? (s : List Char) : Option (List Char) :=
  match encodedMark.isPrefixOf? s with
  | some s => decodeLabel? s
  | none => some s

def isValidLabel (label : List Char) : Bool :=
  !label.head?.any Text.isMark && joinersFit [] label &&
    (isAscii label || label.length ≤ greatestLength)

def encodeLabel (label : List Char) : List Char :=
  if isAscii label then label else encodedMark ++ Punycode.encode label

def labels? (s : List Char) : Option (List (List Char)) := do
  let s ← s.mapM mapped?
  (Text.split (· == '.') (Text.composed s.flatten)).mapM readLabel?

def areValid (labels : List (List Char)) : Bool :=
  let directions := labels.map (·.map Direction.ofChar)
  labels.all isValidLabel && (!directions.any turns || directions.all keepsDirection)

def toAscii? (s : List Char) : Option (List Char) := do
  let labels ← labels? s
  if areValid labels then return ['.'].intercalate (labels.map encodeLabel) else none

end ChatGateway.DomainName
