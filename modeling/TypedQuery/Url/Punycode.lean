/-!
# Punycode

A text in any script is written with letters, digits and hyphens of ASCII: first its ASCII
characters, then, behind a hyphen, where the other ones go. Those are written in order of their code
points, each as the number of steps from the last one, and a number has as few digits as its
neighbours let expect.

* `Punycode.encode`: the ASCII form of a text.
* `Punycode.decode?`: the text of an ASCII form, if it is one. The text consists of code points,
  since no form is refused for a surrogate.
-/

namespace TypedQuery.Punycode

/-- The digit for a value: letters first, then decimal digits. -/
def digitOf (d : Nat) : Char := Char.ofNat (if d < 26 then 0x61 + d else 0x30 + (d - 26))

/-- The value of a digit. -/
def valueOf? (c : Char) : Option Nat :=
  if c.isLower then some (c.toNat - 0x61)
  else if c.isUpper then some (c.toNat - 0x41)
  else if c.isDigit then some (c.toNat - 0x30 + 26)
  else none

/-- A digit below the threshold of its place ends a number; `place` counts up by 36. -/
def threshold (bias place : Nat) : Nat := max 1 (min 26 (place - bias))

/-- Divides a distance until it is small; the bias grows with each division. -/
def shrink (bias distance : Nat) : Nat :=
  if 455 < distance then shrink (bias + 36) (distance / 35)
  else bias + 36 * distance / (distance + 38)
termination_by distance
decreasing_by exact Nat.div_lt_self (by omega) (by omega)

/-- The bias behind a number, when the text has `count` characters so far. -/
def adapt (isFirst : Bool) (distance count : Nat) : Nat :=
  let distance := distance / if isFirst then 700 else 2
  shrink 0 (distance + distance / count)

/-! ## Encoding -/

/-- The digits of a number. -/
def digitsOf (bias place n : Nat) : List Char :=
  let t := threshold bias place
  if n < t then [digitOf n]
  else digitOf (t + (n - t) % (36 - t)) :: digitsOf bias (place + 36) ((n - t) / (36 - t))
termination_by n
decreasing_by
  have h : 1 ≤ threshold bias place := by unfold threshold; omega
  have := Nat.div_le_self (n - threshold bias place) (36 - threshold bias place)
  omega

/-- What has been written: the digits, the steps since the last number, the bias, and how many
characters are done. -/
structure Progress where
  digits : List Char := []
  steps : Nat := 0
  bias : Nat := 72
  count : Nat

/-- Passes a character on the way through the text for the code point `point`. -/
def Progress.pass (basic point : Nat) (p : Progress) (n : Nat) : Progress :=
  if n < point then { p with steps := p.steps + 1 }
  else if n = point then
    { digits := p.digits ++ digitsOf p.bias 36 p.steps
      steps := 0
      bias := adapt (p.count == basic) p.steps (p.count + 1)
      count := p.count + 1 }
  else p

/-- The code points of a list without repetitions, in order. -/
def ascending (points : List Nat) : List Nat := points.mergeSort.eraseDups

/-- Goes through the text for each of the code points; `next` is the least that is not done. -/
def encodeFrom (text : List Nat) (basic next : Nat) (p : Progress) : List Nat → List Char
  | [] => p.digits
  | point :: points =>
    let p := { p with steps := p.steps + (point - next) * (p.count + 1) }
    let p := text.foldl (Progress.pass basic point) p
    encodeFrom text basic (point + 1) { p with steps := p.steps + 1 } points

/-- The ASCII form of a text. -/
def encode (text : List Nat) : List Char :=
  let basic := (text.filter (· < 0x80)).map Char.ofNat
  let digits := encodeFrom text basic.length 0x80 { count := basic.length }
    (ascending (text.filter (0x80 ≤ ·)))
  if basic.isEmpty then digits else basic ++ '-' :: digits

/-! ## Decoding -/

/-- Reads a number: its value, and what follows it. -/
def number? (bias place weight value : Nat) : List Char → Option (Nat × List Char)
  | [] => none
  | c :: cs =>
    match valueOf? c with
    | none => none
    | some d =>
      let t := threshold bias place
      let value := value + d * weight
      if d < t then some (value, cs) else number? bias (place + 36) (weight * (36 - t)) value cs

/-- A number takes at least one character. -/
theorem length_of_number? {bias place weight value n : Nat} {cs rest : List Char}
    (h : number? bias place weight value cs = some (n, rest)) : rest.length < cs.length := by
  induction cs generalizing place weight value with
  | nil => simp [number?] at h
  | cons c cs ih =>
    unfold number? at h
    split at h
    · simp at h
    · dsimp only at h
      split at h
      · obtain ⟨-, rfl⟩ := by simpa using h
        simp
      · have := ih h
        simp only [List.length_cons]
        omega

/-- Puts characters into a text. The last one put in was `point`, and `place` is the place behind
it. -/
def insertFrom (isFirst : Bool) (bias point place : Nat) (text : List Nat) (cs : List Char) :
    Option (List Nat) :=
  if cs.isEmpty then some text
  else
    match _h : number? bias 36 1 0 cs with
    | none => none
    | some (steps, rest) =>
      let count := text.length + 1
      let point := point + (place + steps) / count
      let place := (place + steps) % count
      if 0x10FFFF < point then none
      else insertFrom false (adapt isFirst steps count) point (place + 1)
        (text.take place ++ point :: text.drop place) rest
termination_by cs.length
decreasing_by exact length_of_number? _h

/-- The ASCII characters before the last hyphen, and what follows it. -/
def parts (cs : List Char) : List Char × List Char :=
  let tail := (cs.reverse.takeWhile (· != '-')).reverse
  if tail.length = cs.length then ([], cs) else (cs.take (cs.length - tail.length - 1), tail)

/-- The text of an ASCII form. -/
def decode? (cs : List Char) : Option (List Nat) :=
  let (basic, digits) := parts cs
  insertFrom true 72 0x80 0 (basic.map Char.toNat) digits

end TypedQuery.Punycode
