import TypedQuery.Number.Binary64

/-!
# Decimal text of a double

The text of a double has the fewest digits that read back as the same double, and among those the
nearest to it. `Decimal.shortest` finds the digits: for one digit, two digits and so on it looks at
the two neighbours of the number on the grid of decimals with that many digits, and takes the first
that lies in the interval of reals that round to the double.

`Decimal.Layout` says how digits are laid out as text.
-/

namespace TypedQuery

/-- The decimal number `digits * 10 ^ exponent`. -/
structure Decimal where
  digits : Nat
  exponent : Int
  deriving DecidableEq

namespace Decimal

/-- The largest `k` with `10 ^ k ≤ num / den`, for a positive quotient. -/
def magnitude (num den : Nat) : Int :=
  if den ≤ num then Int.ofNat (Binary64.decimalLength (num / den)) - 1
  else -Int.ofNat (Binary64.decimalLength ((den - 1) / num))

/-- The positive double `mantissa * 2 ^ exponent`, with the reals that round to it as an interval
of quotients over one denominator. -/
structure Interval where
  low : Nat
  value : Nat
  high : Nat
  den : Nat
  /-- Whether the ends belong to the interval. -/
  closed : Bool

/-- The interval of a double. The gap below a power of two is half the gap above it. -/
def Interval.ofDouble (mantissa : Nat) (exponent : Int) : Interval :=
  let up := Nat.pow 2 exponent.toNat
  let below := if mantissa * 2 = Binary64.mantissas ∧ Binary64.minExponent < exponent then 1 else 2
  { low := (4 * mantissa - below) * up
    value := 4 * mantissa * up
    high := (4 * mantissa + 2) * up
    den := 4 * Nat.pow 2 (-exponent).toNat
    closed := mantissa % 2 == 0 }

/-- Whether the decimal lies in the interval. -/
def Interval.contains (i : Interval) (d : Decimal) : Bool :=
  let x := d.digits * Nat.pow 10 d.exponent.toNat * i.den
  let unit := Nat.pow 10 (-d.exponent).toNat
  if i.closed then decide (i.low * unit ≤ x ∧ x ≤ i.high * unit)
  else decide (i.low * unit < x ∧ x < i.high * unit)

/-- The neighbours of the interval's value on the grid of multiples of `10 ^ exponent`. -/
def Interval.neighbours (i : Interval) (exponent : Int) : Decimal × Decimal :=
  let d := i.value * Nat.pow 10 (-exponent).toNat / (i.den * Nat.pow 10 exponent.toNat)
  (⟨d, exponent⟩, ⟨d + 1, exponent⟩)

/-- Whether the upper neighbour is nearer to the value than the lower; half way, the even one
counts as nearer. -/
def Interval.upperNearer (i : Interval) (lower : Decimal) : Bool :=
  let unit := Nat.pow 10 (-lower.exponent).toNat
  let twice := 2 * i.value * unit
  let middle := (2 * lower.digits + 1) * Nat.pow 10 lower.exponent.toNat * i.den
  decide (middle < twice) || (middle == twice && lower.digits % 2 == 1)

/-- The decimal with `count` digits that stands for the interval, if one does. -/
def Interval.withDigits (i : Interval) (magnitude : Int) (count : Nat) : Option Decimal :=
  let (lower, upper) := i.neighbours (magnitude - count + 1)
  match i.contains lower, i.contains upper with
  | true, true => some (if i.upperNearer lower then upper else lower)
  | true, false => some lower
  | false, true => some upper
  | false, false => none

/-- The shortest decimal for the positive double `mantissa * 2 ^ exponent`. Seventeen digits are
always enough. -/
def shortest (mantissa : Nat) (exponent : Int) : Decimal :=
  let i := Interval.ofDouble mantissa exponent
  let k := magnitude i.value i.den
  ((List.range 17).findSome? fun n => i.withDigits k (n + 1)).getD ⟨mantissa, exponent⟩

/-! ## Layout -/

/-- How a number is written. A number whose first digit stands for `10 ^ x` is written out in full
if `positionalFrom ≤ x < positionalBelow`, and with an exponent otherwise. -/
structure Layout where
  positionalFrom : Int
  positionalBelow : Int
  exponentWidth : Nat
  nan : String
  infinity : String

/-- The exponent `x` with a sign and at least `width` digits. -/
def Layout.exponentText (l : Layout) (x : Int) : String :=
  let digits := toString x.natAbs
  (if x < 0 then "e-" else "e+")
    ++ String.ofList (List.replicate (l.exponentWidth - digits.length) '0') ++ digits

/-- The digits `ds` with the first one standing for `10 ^ x`. -/
def Layout.positional (ds : List Char) (x : Int) : String :=
  if x < 0 then
    "0." ++ String.ofList (List.replicate ((-x).toNat - 1) '0' ++ ds)
  else
    let whole := x.toNat + 1
    let front := ds.take whole ++ List.replicate (whole - ds.length) '0'
    let fraction := ds.drop whole
    String.ofList front ++ "." ++ (if fraction.isEmpty then "0" else String.ofList fraction)

/-- The digits without the zeros at their end. -/
def trimZeros (ds : List Char) : List Char := (ds.reverse.dropWhile (· == '0')).reverse

/-- A decimal as text. -/
def Layout.text (l : Layout) (d : Decimal) : String :=
  let all := Nat.toDigits 10 d.digits
  let ds := trimZeros all
  let x := d.exponent + all.length - 1
  if l.positionalFrom ≤ x ∧ x < l.positionalBelow then Layout.positional ds x
  else
    match ds with
    | [] => "0"
    | [c] => String.singleton c ++ l.exponentText x
    | c :: cs => String.singleton c ++ "." ++ String.ofList cs ++ l.exponentText x

end Decimal

namespace Binary64

/-- A double as text. -/
def render (l : Decimal.Layout) : Binary64 → String
  | .nan => l.nan
  | .infinite negative => (if negative then "-" else "") ++ l.infinity
  | .finite negative 0 _ => (if negative then "-" else "") ++ "0.0"
  | .finite negative m e => (if negative then "-" else "") ++ l.text (Decimal.shortest m e)

/-- Payload numbers are written in full from `0.0001` up to below `10 ^ 16`. -/
def layout : Decimal.Layout := ⟨-4, 16, 2, "nan", "inf"⟩

/-- A double in the layout of payloads and messages. -/
def text (x : Binary64) : String := x.render layout

end Binary64

end TypedQuery
