/-!
# Sorting

`Sorting.sort before xs` puts `xs` in the order of `before`. Items of which either may stand before
the other stay as they were.

* `Sorting.perm_sort`: nothing is lost or added.
* `Sorting.pairwise_sort`: the result is in order, if `before` compares any two items and can be
  chained.
* `Sorting.byName`, `Sorting.pairwise_byName`: texts in the order of their characters.
* `Sorting.byName_eq_of_perm`: the order before sorting does not matter.
-/

namespace TypedQuery.Sorting

variable {α : Type}

/-- Puts `x` in front of the first item that does not have to stand before it. -/
def insert (before : α → α → Bool) (x : α) : List α → List α
  | [] => [x]
  | y :: ys => if before x y then x :: y :: ys else y :: insert before x ys

/-- The items in order. -/
def sort (before : α → α → Bool) : List α → List α
  | [] => []
  | x :: xs => insert before x (sort before xs)

theorem perm_insert (before : α → α → Bool) (x : α) (xs : List α) :
    (insert before x xs).Perm (x :: xs) := by
  induction xs with
  | nil => exact .refl _
  | cons y ys ih =>
    simp only [insert]
    split
    · exact .refl _
    · exact (ih.cons y).trans (.swap x y ys)

/-- Sorting only changes the order. -/
theorem perm_sort (before : α → α → Bool) (xs : List α) : (sort before xs).Perm xs := by
  induction xs with
  | nil => exact .refl _
  | cons x xs ih => exact (perm_insert before x _).trans (ih.cons x)

@[simp] theorem length_sort (before : α → α → Bool) (xs : List α) :
    (sort before xs).length = xs.length :=
  (perm_sort before xs).length_eq

@[simp] theorem mem_sort {before : α → α → Bool} {x : α} {xs : List α} :
    x ∈ sort before xs ↔ x ∈ xs :=
  (perm_sort before xs).mem_iff

theorem pairwise_insert {before : α → α → Bool}
    (total : ∀ x y, before x y = false → before y x = true)
    (trans : ∀ x y z, before x y = true → before y z = true → before x z = true)
    (x : α) {xs : List α} (h : xs.Pairwise (before · · = true)) :
    (insert before x xs).Pairwise (before · · = true) := by
  induction xs with
  | nil => simp [insert]
  | cons y ys ih =>
    obtain ⟨hy, hys⟩ := List.pairwise_cons.1 h
    simp only [insert]
    split
    · rename_i hxy
      refine List.pairwise_cons.2 ⟨fun z hz => ?_, h⟩
      rcases List.mem_cons.1 hz with rfl | hz
      · exact hxy
      · exact trans x y z hxy (hy z hz)
    · rename_i hxy
      refine List.pairwise_cons.2 ⟨fun z hz => ?_, ih hys⟩
      rcases List.mem_cons.1 ((perm_insert before x ys).mem_iff.1 hz) with rfl | hz
      · exact total z y (by simpa using hxy)
      · exact hy z hz

/-- The result of sorting is in order. -/
theorem pairwise_sort {before : α → α → Bool}
    (total : ∀ x y, before x y = false → before y x = true)
    (trans : ∀ x y z, before x y = true → before y z = true → before x z = true) (xs : List α) :
    (sort before xs).Pairwise (before · · = true) := by
  induction xs with
  | nil => exact .nil
  | cons x xs ih => exact pairwise_insert total trans x ih

/-- Texts in the order of their characters. -/
def byName (xs : List String) : List String := sort (fun a b => decide (a ≤ b)) xs

theorem pairwise_le_byName (xs : List String) : (byName xs).Pairwise (· ≤ ·) := by
  have hle : (byName xs).Pairwise fun a b => decide (a ≤ b) = true := by
    refine pairwise_sort (fun a b hab => ?_) (fun a b c hab hbc => ?_) xs
    · rcases String.le_total a b with h | h
      · simp [h] at hab
      · simpa using h
    · simp only [decide_eq_true_eq] at hab hbc ⊢
      exact String.le_trans hab hbc
  exact hle.imp fun h => by simpa using h

/-- Distinct texts rise strictly once they are sorted. -/
theorem pairwise_byName {xs : List String} (h : xs.Nodup) : (byName xs).Pairwise (· < ·) := by
  have hne : (byName xs).Nodup := (perm_sort _ xs).nodup_iff.2 h
  refine (pairwise_le_byName xs).imp₂ (fun a b hab hne => ?_) hne
  exact String.not_le.1 fun hba => hne (String.le_antisymm hab hba)

/-- The order in which texts come does not matter once they are sorted. -/
theorem byName_eq_of_perm {xs ys : List String} (h : xs.Perm ys) : byName xs = byName ys :=
  List.Perm.eq_of_pairwise (fun _ _ _ _ => String.le_antisymm) (pairwise_le_byName xs)
    (pairwise_le_byName ys) ((perm_sort _ xs).trans (h.trans (perm_sort _ ys).symm))

end TypedQuery.Sorting
