import ChatGateway.Text.CombiningClass
import ChatGateway.Text.Composite

/-!
The composed form of a text. Texts that differ only in how far their characters are composed, and in the order of
marks that do not interact, have the same composed form. Variants of a character, and characters that are never written
composed, are not looked for: a text has been rid of them before.
-/

namespace ChatGateway.Text

/-- How often the first part of a composite can be a composite. -/
def greatestNesting : Nat := 4

def decomposed : Nat → Char → List Char
  | 0, c => [c]
  | n + 1, c =>
    match parts? c with
    | some (a, b) => decomposed n a ++ [b]
    | none => [c]

def insertMark (c : Char) : List Char → List Char
  | [] => [c]
  | d :: s =>
    if combiningClass d ≠ 0 ∧ combiningClass d < combiningClass c then d :: insertMark c s else c :: d :: s

def ordered : List Char → List Char
  | [] => []
  | c :: s => if combiningClass c = 0 then c :: ordered s else insertMark c (ordered s)

/-- Composes a character with what follows it. The marks in between, which stay, are in reverse order; behind one of
its own class, or a higher one, a mark does not reach the character. -/
def composeFrom (c : Char) (marks : List Char) : List Char → List Char
  | [] => c :: marks.reverse
  | d :: s =>
    let reaches := marks.head?.all fun mark => combiningClass mark < combiningClass d
    match if reaches then composite? c d else none with
    | some composite => composeFrom composite marks s
    | none =>
      if combiningClass d = 0 then c :: marks.reverse ++ composeFrom d [] s
      else composeFrom c (d :: marks) s

def compose : List Char → List Char
  | [] => []
  | c :: s => if combiningClass c = 0 then composeFrom c [] s else c :: compose s

def composed (s : List Char) : List Char :=
  compose (ordered (s.flatMap (decomposed greatestNesting)))

end ChatGateway.Text
