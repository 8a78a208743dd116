import ChatGateway.DomainName.Mapping.Excluded
import ChatGateway.DomainName.Mapping.Expansion
import ChatGateway.DomainName.Mapping.Shift
import ChatGateway.DomainName.Mapping.Substitute

namespace ChatGateway.DomainName

def replaced? (c : Char) : Option (List Char) :=
  ((shifts.findSome? (·.move? c)).map ([·])).or <|
    ((substitutes.find? (·.1 == c.toNat)).map fun (_, n) => [Char.ofNat n]).or <|
      (expansions.find? (·.1 == c.toNat)).map fun (_, ns) => ns.map Char.ofNat

def mapped? (c : Char) : Option (List Char) :=
  if c.toNat < 128 then some [c.toLower]
  else if ignored.includes c then some []
  else if excluded.includes c then none
  else some ((replaced? c).getD [c])

def isPlain (c : Char) : Bool := mapped? c = some [c]

end ChatGateway.DomainName
