import TypedQuery.Sorting

/-!
# Similar words

`Similar.closest` picks the words that are most like a given one, to suggest them after a slip of
the pen. Two words are compared by their longest common part, and then by what lies to its left and
to its right.
-/

namespace TypedQuery.Similar

/-- How many characters two lists have in common at their start. -/
def commonStart : List Char → List Char → Nat
  | a :: as, b :: bs => if a = b then commonStart as bs + 1 else 0
  | _, _ => 0

/-- The longest common part of two lists: where it starts in each, and its length. Of several, the
one that starts first. -/
def longestCommon (as bs : List Char) : Nat × Nat × Nat :=
  (List.range as.length).foldl (fun best i =>
    (List.range bs.length).foldl (fun best j =>
      let k := commonStart (as.drop i) (bs.drop j)
      if best.2.2 < k then (i, j, k) else best) best) (0, 0, 0)

/-- How many characters two lists have in common, part by part. No more parts are looked for than
`n`. -/
def common (n : Nat) (as bs : List Char) : Nat :=
  match n with
  | 0 => 0
  | n + 1 =>
    match longestCommon as bs with
    | (_, _, 0) => 0
    | (i, j, k) =>
      k + common n (as.take i) (bs.take j) + common n (as.drop (i + k)) (bs.drop (j + k))

/-- What two words have in common, counted in both, and their length together. -/
def ratio (a b : String) : Nat × Nat :=
  (2 * common (a.length + 1) a.toList b.toList, a.length + b.length)

/-- Whether at least three fifths of two words are common. -/
def isClose (a b : String) : Bool := 3 * (ratio a b).2 ≤ 5 * (ratio a b).1

/-- Whether `a` is at least as good a match for `word` as `b`. -/
def better (word a b : String) : Bool :=
  let (m, l) := ratio a word
  let (n, k) := ratio b word
  if m * k = n * l then decide (b ≤ a) else decide (n * l < m * k)

/-- The words that are most like `word`, at most three. -/
def closest (word : String) (words : List String) : List String :=
  (Sorting.sort (better word) (words.filter fun w => isClose w word)).take 3

end TypedQuery.Similar
