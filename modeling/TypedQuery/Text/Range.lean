import TypedQuery.Text.Digit
import TypedQuery.Text.Split

/-!
# Ranges of characters

Classes of characters beyond ASCII are given by tables of ranges, first and last code point of each.
A long table is written as text: hexadecimal numbers with blanks or line ends between the ranges and
a dash between first and last, so `30-39 5F` has two ranges.
-/

namespace TypedQuery.Text

/-- First and last code points of ranges. -/
abbrev Ranges := Array (Nat × Nat)

/-- The number that hexadecimal digits stand for; other characters do not count. -/
def hexNumber (cs : List Char) : Nat :=
  cs.foldl (fun n c => match hexDigit? c with | some d => 16 * n + d | none => n) 0

/-- The words of a table. -/
def words (s : String) : List (List Char) :=
  (splitWhere (fun c => c == ' ' || c == '\n') s.toList).filter (!·.isEmpty)

namespace Ranges

/-- The range that a word stands for. -/
def ofWord (w : List Char) : Nat × Nat :=
  match splitWhere (· == '-') w with
  | [a, b] => (hexNumber a, hexNumber b)
  | _ => (hexNumber w, hexNumber w)

/-- Reads a table. -/
def ofText (s : String) : Ranges := ((words s).map ofWord).toArray

/-- Whether a code point lies in one of the ranges. -/
def has (rs : Ranges) (n : Nat) : Bool := rs.any fun (a, b) => a ≤ n && n ≤ b

end Ranges

end TypedQuery.Text
