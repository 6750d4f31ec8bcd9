import TypedQuery.Text.Composed
import TypedQuery.Text.Direction
import TypedQuery.Text.Quoted
import TypedQuery.Url.LabelTable
import TypedQuery.Url.Punycode

/-!
# Labels of domain names

A domain name consists of labels with dots between them. A label in any script is held to rules on
its characters, on what stands beside some of them, and on the directions in which they run
(`Label.check`). On the wire it is written in ASCII, with a mark in front that tells that it was
encoded.

* `Label.toAscii`: a label as it is written on the wire.
* `Label.ofAscii`: the label that was written so.
-/

namespace TypedQuery

/-- Why something is no domain name. Positions count from one. -/
inductive DomainFault where
  | tooLong
  | empty
  | emptyLabel
  | labelTooLong
  | notComposed
  | innerHyphens
  | outerHyphen
  | initialMark
  /-- A joiner stands where there is nothing to join. -/
  | joiner (point position : Nat) (label : List Nat)
  /-- A character lacks the ones that it needs beside it. -/
  | context (point position : Nat) (label : List Nat)
  | character (point position : Nat) (label : List Nat)
  | unknownDirection (position : Nat) (label : List Nat)
  | firstDirection (label : List Nat)
  | direction (position : Nat) (leftward : Bool)
  | mixedDigits
  | lastDirection
  /-- Nothing follows the mark of an encoded label. -/
  | noCode
  | codeHyphen
  | badCode
  deriving DecidableEq

namespace DomainFault

/-- A code point as faults name it. -/
def pointName (n : Nat) : String := "U+" ++ (String.ofList (Text.hex 4 n)).toUpper

/-- The fault in words. -/
def message : DomainFault → String
  | .tooLong => "Domain too long"
  | .empty => "Empty domain"
  | .emptyLabel => "Empty Label"
  | .labelTooLong => "Label too long"
  | .notComposed => "Label must be in Normalization Form C"
  | .innerHyphens => "Label has disallowed hyphens in 3rd and 4th position"
  | .outerHyphen => "Label must not start or end with a hyphen"
  | .initialMark => "Label begins with an illegal combining character"
  | .joiner point position label =>
    "Unknown codepoint adjacent to joiner " ++ pointName point ++ " at position " ++
      toString position ++ " in " ++ Text.quotePoints label
  | .context point position label =>
    "Codepoint " ++ pointName point ++ " not allowed at position " ++ toString position ++ " in " ++
      Text.quotePoints label
  | .character point position label =>
    "Codepoint " ++ pointName point ++ " at position " ++ toString position ++ " of " ++
      Text.quotePoints label ++ " not allowed"
  | .unknownDirection position label =>
    "Unknown directionality in label " ++ Text.quotePoints label ++ " at position " ++
      toString position
  | .firstDirection label =>
    "First codepoint in label " ++ Text.quotePoints label ++ " must be directionality L, R or AL"
  | .direction position leftward =>
    "Invalid direction for codepoint at position " ++ toString position ++ " in a " ++
      (if leftward then "right-to-left" else "left-to-right") ++ " label"
  | .mixedDigits => "Can not mix numeral types in a right-to-left label"
  | .lastDirection => "Label ends with illegal codepoint directionality"
  | .noCode => "Malformed A-label, no Punycode eligible content found"
  | .codeHyphen => "A-label must not end with a hyphen"
  | .badCode => "Invalid A-label"

end DomainFault

namespace Label

open Text (Direction)

/-! ## Characters and their neighbours -/

/-- The class of the marks that take the vowel from a consonant. -/
def viramaClass : Nat := 9

/-- Whether a joiner may stand behind `before`, last one first, and in front of `behind`. -/
def joins (point : Nat) (before behind : List Nat) : Bool :=
  match before with
  | [] => false
  | p :: _ =>
    if (Direction.of? p).isNone then false
    else if Text.markClass p = viramaClass then true
    else if point = 0x200C then
      ((before.find? (!transparent.has ·)).map joiningForward.has).getD false &&
        ((behind.find? (!transparent.has ·)).map joiningBackward.has).getD false
    else false

/-- The Arabic digits. -/
def isArabicDigit (n : Nat) : Bool := 0x660 ≤ n && n ≤ 0x669

/-- The Arabic digits of the East. -/
def isEasternDigit (n : Nat) : Bool := 0x6F0 ≤ n && n ≤ 0x6F9

/-- Whether a character may stand between others; `none` if its neighbours do not matter. -/
def fits? (point : Nat) (before behind : List Nat) : Option Bool :=
  if point = 0xB7 then some (before.head? == some 0x6C && behind.head? == some 0x6C)
  else if point = 0x375 then some (behind.head?.any greek.has)
  else if point = 0x5F3 || point = 0x5F4 then some (before.head?.any hebrew.has)
  else if point = 0x30FB then some ((before ++ behind).any fun n => n != 0x30FB && japanese.has n)
  else if isArabicDigit point then some (!(before ++ behind).any isEasternDigit)
  else if isEasternDigit point then some (!(before ++ behind).any isArabicDigit)
  else none

/-- Checks one character of a label. -/
def checkPoint (label : List Nat) (point : Nat) (before behind : List Nat) :
    Except DomainFault Unit :=
  let position := before.length + 1
  if permitted.has point then .ok ()
  else if point = 0x200C || point = 0x200D then
    if joins point before behind then .ok () else .error (.joiner point position label)
  else
    match fits? point before behind with
    | some true => .ok ()
    | some false => .error (.context point position label)
    | none => .error (.character point position label)

/-- Checks the characters behind `before`, last one first. -/
def checkPoints (label before : List Nat) : List Nat → Except DomainFault Unit
  | [] => .ok ()
  | n :: behind => do
    checkPoint label n before behind
    checkPoints label (n :: before) behind

/-! ## Directions -/

/-- The directions of the characters from a position on. -/
def directions (label : List Nat) (position : Nat) : List Nat → Except DomainFault (List Direction)
  | [] => .ok []
  | n :: ns =>
    match Direction.of? n with
    | none => .error (.unknownDirection position label)
    | some d => (directions label (position + 1) ns).map (d :: ·)

/-- Whether a label may end with the direction; marks go along with what is before them. -/
def isEnding (leftward : Bool) (d : Direction) : Bool :=
  if leftward then d.isLeftward || d == .digit else d == .rightward || d == .digit

/-- Checks the directions from a position on. `ends` tells whether the label could end before them,
and `digits` which digits it has so far. -/
def checkDirections (leftward : Bool) (position : Nat) (ends : Bool) (digits : Option Direction) :
    List Direction → Except DomainFault Unit
  | [] => if ends then .ok () else .error .lastDirection
  | d :: ds =>
    if if leftward then d == .rightward else d.isLeftward then
      .error (.direction position leftward)
    else
      let ends := isEnding leftward d || (d == .mark && ends)
      if leftward && (d == .digit || d == .arabicDigit) then
        if digits.any (· != d) then .error .mixedDigits
        else checkDirections leftward (position + 1) ends (some d) ds
      else checkDirections leftward (position + 1) ends digits ds

/-- Checks the directions of a label, if some of it runs from right to left. -/
def checkDirection (label : List Nat) : Except DomainFault Unit := do
  let ds ← directions label 1 label
  if !ds.any Direction.isLeftward then return ()
  match ds.head? with
  | some .leftward | some .arabic => checkDirections true 1 false none ds
  | some .rightward => checkDirections false 1 false none ds
  | _ => throw (.firstDirection label)

/-! ## Labels -/

/-- Whether hyphens stand where encoded labels have those of their mark. -/
def hasInnerHyphens (label : List Nat) : Bool := (label.drop 2).take 2 == [0x2D, 0x2D]

/-- Checks a label. -/
def check (label : List Nat) : Except DomainFault Unit :=
  match label with
  | [] => .error .emptyLabel
  | n :: _ =>
    if !Text.isComposed label then .error .notComposed
    else if hasInnerHyphens label then .error .innerHyphens
    else if n = 0x2D || label.getLast? = some 0x2D then .error .outerHyphen
    else if initialMarks.has n then .error .initialMark
    else do
      checkPoints label [] label
      checkDirection label

/-- What an encoded label starts with. -/
def mark : List Char := "xn--".toList

/-- How long a label may be on the wire. -/
def longest : Nat := 63

/-- The label that is written in ASCII as `cs`. -/
def ofAscii (cs : List Char) : Except DomainFault (List Nat) := do
  let cs := cs.map Char.toLower
  let label ←
    if mark.isPrefixOf cs then
      let code := cs.drop mark.length
      if code.isEmpty then throw .noCode
      if code.getLast? = some '-' then throw .codeHyphen
      match Punycode.decode? code with
      | none => throw .badCode
      | some label => pure label
    else pure (cs.map Char.toNat)
  check label
  return label

/-- A label as it is written in ASCII. -/
def toAscii (cs : List Char) : Except DomainFault (List Char) := do
  let points := cs.map Char.toNat
  let out ←
    if points.all (· < 0x80) then do
      let _ ← ofAscii cs
      pure cs
    else do
      check points
      pure (mark ++ Punycode.encode points)
  if longest < out.length then throw .labelTooLong
  return out

end Label

end TypedQuery
