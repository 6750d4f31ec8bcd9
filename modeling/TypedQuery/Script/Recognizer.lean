import TypedQuery.Script.Grammar

/-!
# Recognising Python text

`Peg.run` tries to read tokens from a place on and gives the place behind them. What came of a rule
at a place is remembered, so that no rule is tried twice there: the work stays in proportion to the
number of tokens. Remembering does not change any result.

Between two tokens no rule is met twice on the way down, so the number of tokens bounds the
recursion (`fuelFor`).
-/

namespace TypedQuery.Script

/-- What came of the rules at each place. -/
abbrev Memo := Array (List (Rule × Option Nat))

namespace Memo

/-- What came of a rule at a place, if it was tried there. -/
def find? (m : Memo) (r : Rule) (place : Nat) : Option (Option Nat) := (m.getD place []).lookup r

/-- Remembers what came of a rule at a place. -/
def put (m : Memo) (r : Rule) (place : Nat) (result : Option Nat) : Memo :=
  m.modify place ((r, result) :: ·)

end Memo

namespace Peg

/-- Reads tokens from a place on: the place behind them, if they fit. -/
def run (tokens : Array Token) (fuel : Nat) (p : Peg) (place : Nat) (m : Memo) :
    Option Nat × Memo :=
  match fuel with
  | 0 => (none, m)
  | fuel + 1 =>
    match p with
    | .token t => (if tokens[place]?.any t.accepts then some (place + 1) else none, m)
    | .rule r =>
      match m.find? r place with
      | some result => (result, m)
      | none =>
        let (result, m) := run tokens fuel r.peg place m
        (result, m.put r place result)
    | .seq [] => (some place, m)
    | .seq (p :: ps) =>
      match run tokens fuel p place m with
      | (none, m) => (none, m)
      | (some place, m) => run tokens fuel (.seq ps) place m
    | .choice [] => (none, m)
    | .choice (p :: ps) =>
      match run tokens fuel p place m with
      | (none, m) => run tokens fuel (.choice ps) place m
      | (some place, m) => (some place, m)
    | .many p =>
      match run tokens fuel p place m with
      | (none, m) => (some place, m)
      | (some next, m) =>
        if place < next then run tokens fuel (.many p) next m else (some place, m)
    | .ahead p =>
      match run tokens fuel p place m with
      | (none, m) => (none, m)
      | (some _, m) => (some place, m)
    | .avoid p =>
      match run tokens fuel p place m with
      | (none, m) => (some place, m)
      | (some _, m) => (none, m)

end Peg

/-- Enough fuel for a number of tokens. -/
def fuelFor (tokens : Nat) : Nat := 5000 * (tokens + 1)

/-- The place behind the tokens that a rule reads at the start. -/
def Rule.endOf? (r : Rule) (tokens : List Token) : Option Nat :=
  let memo : Memo := Array.replicate (tokens.length + 1) []
  (Peg.run tokens.toArray (fuelFor tokens.length) r 0 memo).1

/-- Whether a rule reads all tokens. -/
def Rule.reads (r : Rule) (tokens : List Token) : Bool := r.endOf? tokens == some tokens.length

/-- The expressions in the fields of a string. -/
def Token.fields : Token → List String
  | .string _ fields => fields
  | _ => []

/-- Whether a text is an expression in a field, and so are those in the fields of its strings. A
text is longer than those in it, so its length bounds the recursion. -/
def isField (fuel : Nat) (text : String) : Bool :=
  match fuel with
  | 0 => false
  | fuel + 1 =>
    match tokens? text with
    | none => false
    | some ts =>
      (Rule.endOf? .values ts).isSome && ts.all fun t => t.fields.all (isField fuel)

/-- Whether a text reads as Python. -/
def isValid (text : String) : Bool :=
  match tokens? text with
  | none => false
  | some ts => Rule.reads .file ts && ts.all fun t => t.fields.all fun f => isField f.length f

end TypedQuery.Script
