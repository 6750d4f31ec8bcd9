/-!
# Binary floating point numbers

`Binary64` holds the double precision numbers exactly: a finite one is `mantissa * 2 ^ exponent`
with a mantissa below `2 ^ 53`. Everything is integer arithmetic.

* `Binary64.ofRatio`: the double nearest to a quotient; of two that are equally near, the one with
  an even mantissa.
* `Binary64.ofDecimal`: the double nearest to a decimal number.
* `Binary64.ofInt?`: the double nearest to an integer, unless that is infinite.
-/

namespace TypedQuery

/-- A double precision number. -/
inductive Binary64 where
  | nan
  | infinite (negative : Bool)
  | finite (negative : Bool) (mantissa : Nat) (exponent : Int)
  deriving DecidableEq

namespace Binary64

/-- The exponent of the smallest positive number. -/
def minExponent : Int := -1074

/-- The exponent of the largest finite numbers. -/
def maxExponent : Int := 971

/-- The number of mantissas. -/
def mantissas : Nat := Nat.pow 2 53

/-- Zero, with a sign. -/
def zero (negative : Bool) : Binary64 := .finite negative 0 minExponent

/-- `n / d` rounded to the nearest integer, half way to the even one. -/
def roundHalfEven (n d : Nat) : Nat :=
  let q := n / d
  let r := n % d
  if d < 2 * r ∨ (d = 2 * r ∧ q % 2 = 1) then q + 1 else q

/-- `num / den` divided by `2 ^ e`, as a quotient. -/
def scaled (num den : Nat) (e : Int) : Nat × Nat :=
  if 0 ≤ e then (num, den * Nat.pow 2 e.toNat) else (num * Nat.pow 2 (-e).toNat, den)

/-- The exponent at which the mantissa of `num / den` has 53 bits, or fewer at the low end. -/
def exponentOf (num den : Nat) : Int :=
  let e := max minExponent (Int.ofNat num.log2 - Int.ofNat den.log2 - 53)
  let (n, d) := scaled num den e
  if mantissas ≤ n / d then e + 1 else e

/-- The double nearest to `num / den`. -/
def ofRatio (negative : Bool) (num den : Nat) : Binary64 :=
  if num = 0 then zero negative
  else
    let e := exponentOf num den
    let (n, d) := scaled num den e
    let m := roundHalfEven n d
    let (m, e) := if m = mantissas then (m / 2, e + 1) else (m, e)
    if maxExponent < e then .infinite negative else .finite negative m e

/-- The number of decimal digits of `n`. -/
def decimalLength (n : Nat) : Nat := (Nat.toDigits 10 n).length

/-- The double nearest to `digits * 10 ^ exponent`. Numbers far outside the range are decided by
their size alone. -/
def ofDecimal (negative : Bool) (digits : Nat) (exponent : Int) : Binary64 :=
  if digits = 0 then zero negative
  else
    let size := exponent + decimalLength digits
    if 400 < size then .infinite negative
    else if size < -400 then zero negative
    else if 0 ≤ exponent then ofRatio negative (digits * Nat.pow 10 exponent.toNat) 1
    else ofRatio negative digits (Nat.pow 10 (-exponent).toNat)

/-- The double nearest to an integer. -/
def ofInt? (i : Int) : Option Binary64 :=
  match ofRatio (i < 0) i.natAbs 1 with
  | .infinite _ => none
  | x => some x

/-- The integer that a number is equal to, if there is one. -/
def toInt? : Binary64 → Option Int
  | .finite negative m e =>
    let sign : Int := if negative then -1 else 1
    if 0 ≤ e then some (sign * (m * Nat.pow 2 e.toNat : Nat))
    else if m % Nat.pow 2 (-e).toNat = 0 then some (sign * (m / Nat.pow 2 (-e).toNat : Nat))
    else none
  | _ => none

/-- Whether two numbers are equal as numbers: the two zeros are, and nothing equals `nan`. -/
def equal (a b : Binary64) : Bool :=
  match a, b with
  | .nan, _ | _, .nan => false
  | .finite _ 0 _, .finite _ 0 _ => true
  | a, b => a == b

end Binary64

end TypedQuery
