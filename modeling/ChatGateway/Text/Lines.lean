/-!
Lines that end in LF, CR or CR LF, split off one character at a time. A CR ends its line only once the next
character is there, since that may belong to the same line end; at the end of a text it ends nothing.
-/

namespace ChatGateway.Text.Lines

structure State where
  line : List Char
  returned : Bool
deriving DecidableEq, Repr

def State.fresh : State := ⟨[], false⟩

def advance (line : List Char) (c : Char) : State × Option (List Char) :=
  if c = '\n' then (.fresh, some line.reverse)
  else if c = '\r' then (⟨line, true⟩, none)
  else (⟨c :: line, false⟩, none)

def step (s : State) (c : Char) : State × Option (List Char) :=
  if s.returned then
    if c = '\n' then (.fresh, some s.line.reverse)
    else ((advance [] c).1, some s.line.reverse)
  else advance s.line c

end ChatGateway.Text.Lines
