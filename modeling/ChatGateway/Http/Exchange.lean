import ChatGateway.Http.Sent
import ChatGateway.Provider

namespace ChatGateway.Http

open EventStream (Piece)

structure Answer where
  status : Nat
  pieces : List (List UInt8)
  truncated : Bool
deriving DecidableEq, Repr

inductive Reaction where
  | unreachable
  /-- The request has arrived, and no answer comes back. -/
  | hungUp
  | answered (a : Answer)
deriving DecidableEq, Repr

abbrev Network := Sent → Reaction

namespace Answer

def succeeded (a : Answer) : Bool := 200 ≤ a.status && a.status < 300

def bytes (a : Answer) : List UInt8 := a.pieces.flatten

/-- The body is taken for UTF-8, whatever character set the answer names, and a byte order mark is part of the text. -/
def errorText (a : Answer) : String :=
  if a.truncated then "Unknown error"
  else String.ofList (Text.Utf8.decodeLossy .whole a.bytes)

/-- The whole body has to be UTF-8, also within the strings that are passed over. -/
def reply (a : Answer) : Except Fault Reply :=
  if a.truncated then .error (.obscure .bodyBrokeOff)
  else
    match Text.Utf8.decode? a.bytes with
    | some s => (Reply.reader.ofText (String.ofList s)).mapError fun e => .obscure (.body e)
    | none => .error (.obscure (.body .malformed))

def events (a : Answer) : List Piece :=
  a.pieces.map .bytes ++ if a.truncated then [.failure .bodyBrokeOff] else []

def response (a : Answer) (streamed : Bool) : Response :=
  if !a.succeeded then .failure (.rejected a.status a.errorText)
  else if streamed then .stream (EventStream.items a.events) false
  else .reply a.reply

end Answer

def respond (network : Network) (r : ChatRequest) : Response :=
  match compose r with
  | .error fault => .failure fault
  | .ok sent =>
    match network sent with
    | .unreachable | .hungUp => .failure .notSent
    | .answered a => a.response r.body.streamed

def arrived? (network : Network) (r : ChatRequest) : Option Sent :=
  match compose r with
  | .ok sent =>
    match network sent with
    | .unreachable => none
    | .hungUp | .answered _ => some sent
  | .error _ => none

end ChatGateway.Http
