/-!
# Splitting text

`splitWhere p cs` cuts a text at the characters that satisfy `p`. There is always one part more than
there are cuts. `unifyLines` makes all line ends alike.
-/

namespace TypedQuery.Text

/-- The parts of a text between the characters that satisfy `p`. -/
def splitWhere (p : Char → Bool) : List Char → List (List Char)
  | [] => [[]]
  | c :: cs =>
    if p c then [] :: splitWhere p cs
    else
      match splitWhere p cs with
      | [] => [[c]]
      | part :: parts => (c :: part) :: parts

/-- Ends every line with a line feed. -/
def unifyLines : List Char → List Char
  | [] => []
  | '\r' :: '\n' :: cs => '\n' :: unifyLines cs
  | '\r' :: cs => '\n' :: unifyLines cs
  | c :: cs => c :: unifyLines cs

end TypedQuery.Text
