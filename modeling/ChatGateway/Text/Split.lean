namespace ChatGateway.Text

def split (set : Char → Bool) : List Char → List (List Char)
  | [] => [[]]
  | c :: s =>
    if set c then [] :: split set s
    else
      match split set s with
      | part :: parts => (c :: part) :: parts
      | [] => [[c]]

end ChatGateway.Text
