namespace ChatGateway.Text

abbrev Ranges := Array (Nat × Nat)

def Ranges.includes (r : Ranges) (c : Char) : Bool :=
  r.any fun (first, last) => first ≤ c.toNat && c.toNat ≤ last

end ChatGateway.Text
