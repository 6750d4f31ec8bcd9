/-!
# Runs of letters

Capital and small letters of a script mostly stand at one distance from each other, either one
alphabet behind the other or in turn.
-/

namespace TypedQuery.Text

/-- A run of letters from `first` to `last` in steps of `step`, with their other case at a
distance. -/
structure CaseRun where
  first : Nat
  last : Nat
  step : Nat
  distance : Int

namespace CaseRun

/-- Whether the run covers the code point. -/
def covers (r : CaseRun) (n : Nat) : Bool :=
  r.first ≤ n && n ≤ r.last && (n - r.first) % r.step == 0

/-- The other case of a code point that one of the runs covers. -/
def other? (rs : Array CaseRun) (n : Nat) : Option Nat :=
  (rs.find? (·.covers n)).map fun r => ((n : Int) + r.distance).toNat

end CaseRun

end TypedQuery.Text
