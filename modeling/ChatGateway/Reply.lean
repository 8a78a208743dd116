import ChatGateway.Completion
import ChatGateway.Json.Record
import ChatGateway.Usage

namespace ChatGateway

open Json (Reader Record)

structure Candidate where
  index : UInt64
  role : Option String
  content : Option String
  finishReason : Option String
deriving DecidableEq, Repr

structure Reply where
  candidates : List Candidate
  usage : Option Usage
deriving DecidableEq, Repr

namespace Candidate

def message : Reader (Option String × Option String) :=
  (Prod.mk <$> Record.field? "role" Reader.text <*> Record.field? "content" Reader.text).read
    "ResponseMessage"

def reader : Reader Candidate :=
  ((fun index (role, content) finishReason => Candidate.mk index role content finishReason)
    <$> Record.fieldD "index" (Reader.uint64 "usize") 0
    <*> Record.field "message" message
    <*> Record.field? "finish_reason" Reader.text).read "ResponseChoice"

end Candidate

namespace Reply

def empty : Reply := ⟨[], none⟩

def reader : Reader Reply :=
  (Reply.mk
    <$> Record.field "choices" (Reader.list Candidate.reader)
    <*> Record.field? "usage" Usage.reader).read "ChatResponse"

def texts (r : Reply) : List String :=
  (r.candidates.mergeSort fun c d => c.index ≤ d.index).map fun c => c.content.getD ""

def completion (r : Reply) : Completion :=
  match r.texts with
  | [text] => .single text
  | texts => .multiple texts

end Reply

end ChatGateway
