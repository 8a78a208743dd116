import ChatGateway.Json.Parser
import ChatGateway.Json.Reader

namespace ChatGateway.Json

structure Document where
  root : Json
  ended : Bool
deriving Repr

namespace Document

/-- Every step into a value takes a character and two units of depth at most. -/
def parse (s : String) : Document :=
  let s := s.toList
  let (v, rest) := value (2 * s.length + 2) s
  ⟨v, rest.any fun rest => (skipSpace rest).isEmpty⟩

/-- Reads a whole text. An error in the value comes before one in what follows it. -/
def read (fail : ReadError → ε) (reader : Json → Except ε α) (d : Document) : Except ε α := do
  let x ← reader d.root
  if d.ended then return x else throw (fail .malformed)

end Document

def Reader.ofText (reader : Reader α) (s : String) : Except ReadError α :=
  (Document.parse s).read id reader

end ChatGateway.Json
