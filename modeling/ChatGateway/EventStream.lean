import ChatGateway.Chunk
import ChatGateway.Failure
import ChatGateway.Json.Document
import ChatGateway.Text.Blank
import ChatGateway.Text.Lines
import ChatGateway.Text.Utf8

/-!
Streams of events sent by a server. The bytes arrive in pieces; they are taken one by one through three stages, each
with a state of its own: characters, lines, and the data of events. The payload of an event is a chunk, the mark of
the end, or blank.
-/

namespace ChatGateway.EventStream

open Text

inductive Piece where
  | bytes (bs : List UInt8)
  | failure (reason : Interruption)
deriving DecidableEq, Repr

/-! ### Events -/

def dataValue? : List Char → Option (List Char)
  | 'd' :: 'a' :: 't' :: 'a' :: rest =>
    match rest with
    | [] => some []
    | ':' :: ' ' :: value => some value
    | ':' :: value => some value
    | _ => none
  | _ => none

/-- One more line, and the payload of the event that ends with it. The data of an event are the values of its
`data` lines, each with a line end of which the last is dropped. -/
def collect (data line : List Char) : List Char × Option (List Char) :=
  if line = [] then ([], if data = [] then none else some data.dropLast)
  else (data ++ ((dataValue? line).map (· ++ ['\n'])).getD [], none)

/-! ### From bytes to payloads -/

structure State where
  bytes : Utf8.State
  lines : Lines.State
  data : List Char
deriving DecidableEq, Repr

namespace State

def initial : State := ⟨.whole, .fresh, []⟩

def takeLine (s : State) (line : List Char) : State × Option (List Char) :=
  let (data, payload) := collect s.data line
  ({ s with data }, payload)

def takeChar (s : State) (c : Char) : State × Option (List Char) :=
  match Lines.step s.lines c with
  | (lines, none) => ({ s with lines }, none)
  | (lines, some line) => { s with lines }.takeLine line

def takeByte (s : State) (b : UInt8) : State × Option (List Char) :=
  match Utf8.step s.bytes b with
  | (bytes, none) => ({ s with bytes }, none)
  | (bytes, some c) => { s with bytes }.takeChar c

def feed (s : State) : List UInt8 → State × List (List Char)
  | [] => (s, [])
  | b :: bs =>
    let (s, payload) := s.takeByte b
    let (s, payloads) := s.feed bs
    (s, payload.toList ++ payloads)

theorem feed_append (s : State) (bs cs : List UInt8) :
    s.feed (bs ++ cs) =
      ((s.feed bs).1.feed cs |>.1, (s.feed bs).2 ++ ((s.feed bs).1.feed cs).2) := by
  induction bs generalizing s with
  | nil => simp [feed]
  | cons b bs ih => simp [feed, ih]

end State

/-! ### From payloads to chunks -/

abbrev Item := Except Fault Chunk

inductive Notice where
  | blank
  | done
  | chunk (c : Chunk)
  | unreadable (e : Json.ReadError)
deriving DecidableEq, Repr

def doneMark : String := "[DONE]"

def Notice.ofPayload (payload : List Char) : Notice :=
  let s := trimmed payload
  if s = [] then .blank
  else if s = doneMark.toList then .done
  else
    match Chunk.reader.ofText (String.ofList s) with
    | .ok c => .chunk c
    | .error e => .unreadable e

def deliver (others : List Item) : List (List Char) → List Item
  | [] => others
  | payload :: payloads =>
    match Notice.ofPayload payload with
    | .blank => deliver others payloads
    | .done => []
    | .chunk c => .ok c :: deliver others payloads
    | .unreadable e => [.error (.obscure (.document e))]

/-- At the end of the bytes an event that is not finished is dropped, but not a character. -/
def State.ending (s : State) : List Item :=
  match s.bytes with
  | .whole => []
  | .within .. => [.error (.interrupted .unfinishedCharacter)]
  | .malformed width => [.error (.interrupted (.badCharacter width))]

def State.items (s : State) : List Piece → List Item
  | [] => s.ending
  | .failure reason :: _ => [.error (.interrupted reason)]
  | .bytes bs :: pieces =>
    let (s, payloads) := s.feed bs
    deliver (s.items pieces) payloads

/-- The chunks of an event stream, up to its end mark or the first fault. Texts that begin with U+FEFF are not meant: at
them the program comes to a halt. -/
def items (pieces : List Piece) : List Item :=
  State.initial.items pieces

end ChatGateway.EventStream
