import ChatGateway.Json.Record

namespace ChatGateway

open Json (Reader Record)

structure Fragment where
  index : UInt64
  role : Option String
  content : Option String
deriving DecidableEq, Repr

structure Chunk where
  fragments : List Fragment
deriving DecidableEq, Repr

namespace Fragment

def delta : Reader (Option String × Option String) :=
  (Prod.mk <$> Record.field? "role" Reader.text <*> Record.field? "content" Reader.text).read
    "ChunkDelta"

def reader : Reader Fragment :=
  ((fun index (role, content) => Fragment.mk index role content)
    <$> Record.fieldD "index" (Reader.uint64 "usize") 0
    <*> Record.fieldD "delta" delta (none, none)).read "ChunkChoice"

def text (f : Fragment) : String :=
  ((f.role.map (· ++ ": ")).getD "") ++ f.content.getD ""

end Fragment

namespace Chunk

def reader : Reader Chunk :=
  (Chunk.mk <$> Record.fieldD "choices" (Reader.list Fragment.reader) []).read "ChatChunk"

def fragment? (c : Chunk) : Option Fragment := c.fragments.head?

end Chunk

end ChatGateway
