import TypedQuery.Text.Split
import TypedQuery.Url.Label

/-!
# Domain names

A domain name in any script, and the same name in ASCII as it is written on the wire. Several
characters serve as dots between the labels, and a dot may stand at the end.
-/

namespace TypedQuery.Domain

/-- Whether a character is a dot between labels. -/
def isDot (c : Char) : Bool := c == '.' || c == '。' || c == '．' || c == '｡'

/-- How long a name may be. -/
def longest : Nat := 253

/-- Whether a name is too long; a dot at the end is one character more. -/
def isTooLong (cs : List Char) (hasFinalDot : Bool) : Bool :=
  longest + (if hasFinalDot then 1 else 0) < cs.length

/-- The labels of a name, and whether a dot follows the last one. -/
def labels (cs : List Char) : List (List Char) × Bool :=
  let parts := Text.splitWhere isDot cs
  if parts.getLast? = some [] then (parts.dropLast, true) else (parts, false)

/-- Reads the labels of a name with `read`. -/
def readLabels {α : Type} (read : List Char → Except DomainFault (List α)) (cs : List Char) :
    Except DomainFault (List (List α) × Bool) := do
  if isTooLong cs true then throw .tooLong
  if cs.isEmpty then throw .empty
  let (parts, hasFinalDot) := labels cs
  return (← parts.mapM read, hasFinalDot)

/-- Joins labels by dots. -/
def join {α : Type} (dot : α) (parts : List (List α)) (hasFinalDot : Bool) : List α :=
  [dot].intercalate (if hasFinalDot then parts ++ [[]] else parts)

/-- A name as it is written in ASCII. -/
def toAscii (cs : List Char) : Except DomainFault (List Char) := do
  let (parts, hasFinalDot) ← readLabels Label.toAscii cs
  let out := join '.' parts hasFinalDot
  if isTooLong out hasFinalDot then throw .tooLong
  return out

/-- The name that is written in ASCII as `cs`, as code points. -/
def ofAscii (cs : List Char) : Except DomainFault (List Nat) := do
  let (parts, hasFinalDot) ← readLabels Label.ofAscii cs
  return join '.'.toNat parts hasFinalDot

end TypedQuery.Domain
