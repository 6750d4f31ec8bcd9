import TypedQuery.Text.Digit
import TypedQuery.Text.Whitespace

/-!
# Integers as text

An integer is written with an optional sign, and one underscore may stand between two of its digits.
A base other than ten may be marked in front of the digits.

* `Integer.ofDecimal?`: reads a decimal integer with digits of any script. White space around it
  does not count, and the number of digits is limited.
* `Integer.ofOctal?`: reads an octal integer.
-/

namespace TypedQuery.Integer

/-- The number that digits stand for, behind `n`. At least one digit must have been read. -/
def digits? (base : Nat) (valueOf : Char → Option Nat) (started : Bool) (n : Nat) :
    List Char → Option Nat
  | [] => if started then some n else none
  | '_' :: c :: cs =>
    match started, valueOf c with
    | true, some d => digits? base valueOf true (base * n + d) cs
    | _, _ => none
  | c :: cs =>
    match valueOf c with
    | some d => digits? base valueOf true (base * n + d) cs
    | none => none

/-- Reads a sign and the number behind it. -/
def signed? (read : List Char → Option Nat) (cs : List Char) : Option Int :=
  match cs with
  | '+' :: rest => (read rest).map Int.ofNat
  | '-' :: rest => (read rest).map fun n => -Int.ofNat n
  | cs => (read cs).map Int.ofNat

/-- The most decimal digits that an integer may have. -/
def digitLimit : Nat := 4300

/-- Whether a character may stand around a decimal integer. Separators of ASCII may not. -/
def isPadding (c : Char) : Bool := Text.isSpace c && !(0x1C ≤ c.toNat && c.toNat ≤ 0x1F)

/-- Reads a decimal integer. -/
def ofDecimal? (text : String) : Option Int :=
  let cs := Text.stripWhere isPadding text.toList
  if digitLimit < cs.countP (fun c => (Text.digitOf? c).isSome) then none
  else signed? (digits? 10 Text.digitOf? false 0) cs

/-- The value of an octal digit. -/
def octalDigit? (c : Char) : Option Nat :=
  if '0' ≤ c && c ≤ '7' then some (c.toNat - 48) else none

/-- The digits behind the mark of the base, and behind an underscore that may follow it. -/
def behindMark (cs : List Char) : List Char :=
  match cs with
  | '0' :: m :: rest =>
    if m == 'o' || m == 'O' then
      match rest with
      | '_' :: rest => rest
      | rest => rest
    else cs
  | cs => cs

/-- Reads an octal integer. -/
def ofOctal? (cs : List Char) : Option Int :=
  signed? (fun cs => digits? 8 octalDigit? false 0 (behindMark cs)) cs

end TypedQuery.Integer
