import TypedQuery.Number.Binary64

/-!
# Residues of numbers

`Residue.ofInt` and `Residue.ofBinary64?` take a number modulo the prime `2 ^ 61 - 1`, with its
sign. A double is a quotient, and quotients have residues too, so an integer and a double that are
equal have the same residue. The residue minus one is left free.
-/

namespace TypedQuery.Residue

/-- The prime that residues are taken by. -/
def modulus : Nat := Nat.pow 2 61 - 1

/-- The residue of `magnitude` with its sign. -/
def signed (negative : Bool) (magnitude : Nat) : Int :=
  let r : Int := Int.ofNat (magnitude % modulus)
  let r := if negative then -r else r
  if r = -1 then -2 else r

/-- The residue of an integer. -/
def ofInt (i : Int) : Int := signed (i < 0) i.natAbs

/-- The residue of the infinite numbers, up to the sign. -/
def infinite : Int := 314159

/-- The residue of a double, unless it is no number. `2 ^ 61` has the residue one, so a power of two
depends on its exponent modulo 61 only. -/
def ofBinary64? : Binary64 → Option Int
  | .nan => none
  | .infinite negative => some (if negative then -infinite else infinite)
  | .finite negative mantissa exponent =>
    some (signed negative (mantissa * Nat.pow 2 (exponent % 61).toNat))

end TypedQuery.Residue
