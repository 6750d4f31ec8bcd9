import TypedQuery.Json.Basic

/-!
# Equality of JSON values

Numbers are compared by what they stand for, so `1`, `1.0` and `true` are equal. Objects are equal
if they have the same members, in any order. A number that is not one differs from itself, but not
from its likes inside lists and objects.
-/

namespace TypedQuery.Json

/-- The number that a value stands for, if it stands for one. -/
def number? : Json → Option (Int ⊕ Binary64)
  | .bool b => some (.inl (if b then 1 else 0))
  | .int i => some (.inl i)
  | .float x => some (.inr x)
  | _ => none

/-- Whether two numbers are equal. -/
def sameNumber : Int ⊕ Binary64 → Int ⊕ Binary64 → Bool
  | .inl i, .inl j => i == j
  | .inr x, .inr y => x.equal y
  | .inl i, .inr y => y.toInt? == some i
  | .inr x, .inl j => x.toInt? == some j

/-- Equality of values that are no containers. -/
def sameScalar : Json → Json → Bool
  | .null, .null => true
  | .str s, .str t => s == t
  | .wide p, .wide q => p == q
  | a, b =>
    match number? a, number? b with
    | some m, some n => sameNumber m n
    | _, _ => false

/-- Whether both values are the number that is not one. -/
def bothNan : Json → Json → Bool
  | .float .nan, .float .nan => true
  | _, _ => false

mutual

/-- Whether two values inside containers are equal. -/
def same (a : Json) (b : Json) : Bool :=
  match a with
  | .list xs =>
    match b with
    | .list ys => sameItems xs ys
    | _ => false
  | .object ms =>
    match b with
    | .object ns => ms.length == ns.length && sameMembers ms ns
    | _ => false
  | a => bothNan a b || sameScalar a b

/-- Whether two lists have equal items. -/
def sameItems (xs : List Json) (ys : List Json) : Bool :=
  match xs with
  | [] => ys.isEmpty
  | x :: xs =>
    match ys with
    | y :: ys => same x y && sameItems xs ys
    | [] => false

/-- Whether every member has an equal one of its name among `ns`. -/
def sameMembers (ms : List (String × Json)) (ns : List (String × Json)) : Bool :=
  match ms with
  | [] => true
  | (k, v) :: ms =>
    (match Table.get? ns k with
      | some w => same v w
      | none => false) && sameMembers ms ns

end

/-- Whether two values are equal. -/
def equal (a b : Json) : Bool := !bothNan a b && same a b

end TypedQuery.Json
