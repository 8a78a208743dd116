import ChatGateway.Json.Record

namespace ChatGateway

open Json (Reader Record)

inductive Role where
  | system
  | user
  | assistant
deriving DecidableEq, Repr

namespace Role

def name : Role → String
  | .system => "system"
  | .user => "user"
  | .assistant => "assistant"

def reader : Reader Role :=
  .variant ([Role.system, .user, .assistant].map fun r => (r.name, r))

def toJson (r : Role) : Json := .ofText r.name

end Role

structure Message where
  role : Role
  content : String
deriving DecidableEq, Repr

namespace Message

def reader : Reader Message :=
  (Message.mk <$> Record.field "role" Role.reader <*> Record.field "content" Reader.text).read "Message"

def toJson (m : Message) : Json :=
  .record [("role", m.role.toJson), ("content", .ofText m.content)]

end Message

end ChatGateway
