import TypedQuery.Text.Capital
import TypedQuery.Text.Split

/-!
# Names in the generated module

The generated module is Python, so its names must not be Python keywords, and no two declarations
may take the same name. Names are chosen one after the other.

* `Names.fresh`: the wanted name, with as many underscores behind it as it takes to be free.
* `pascalCase`: the form of a field's name inside class names.
-/

namespace TypedQuery.Client

/-- The words that Python keeps for itself. -/
def keywords : List String :=
  ["False", "None", "True", "and", "as", "assert", "async", "await", "break", "class", "continue",
    "def", "del", "elif", "else", "except", "finally", "for", "from", "global", "if", "import",
    "in", "is", "lambda", "nonlocal", "not", "or", "pass", "raise", "return", "try", "while",
    "with", "yield"]

namespace Names

/-- How many names are at least as long as `name`. -/
def atLeast (names : List String) (name : String) : Nat :=
  names.countP fun n => decide (name.length ≤ n.length)

/-- A longer name leaves fewer of them, if the shorter one is among them. -/
theorem atLeast_lt {names : List String} {name : String} (h : name ∈ names) :
    atLeast names (name ++ "_") < atLeast names name := by
  have hle : ∀ l : List String, atLeast l (name ++ "_") ≤ atLeast l name := fun l =>
    List.countP_mono_left fun n _ hn => by
      simp only [String.length_append, decide_eq_true_eq] at hn ⊢
      exact Nat.le_trans (Nat.le_add_right _ _) hn
  have hone : "_".length = 1 := rfl
  induction names with
  | nil => cases h
  | cons n ns ih =>
    have hns := hle ns
    have hstep : ∀ x : String, atLeast (n :: ns) x =
        atLeast ns x + if x.length ≤ n.length then 1 else 0 := fun x => by
      simp [atLeast, List.countP_cons]
    rw [hstep, hstep, String.length_append, hone]
    rcases List.mem_cons.1 h with rfl | h
    · simp only [Nat.le_refl, if_true, Nat.not_succ_le_self, if_false]
      omega
    · have := ih h
      split <;> split <;> omega

/-- The first of `name`, `name_`, `name__` and so on that is not blocked. -/
def fresh (blocked : List String) (name : String) : String :=
  if _h : name ∈ blocked then fresh blocked (name ++ "_") else name
termination_by atLeast blocked name
decreasing_by exact atLeast_lt ‹_›

/-- Chooses a name that is neither taken nor a keyword. -/
def choose (taken : List String) (wanted : String) : String := fresh (taken ++ keywords) wanted

/-- Chooses each of the wanted names in turn; also gives all names that are taken then. -/
def chooseAll (taken : List String) : List String → List String × List String
  | [] => ([], taken)
  | wanted :: rest =>
    let name := choose taken wanted
    let (names, taken) := chooseAll (name :: taken) rest
    (name :: names, taken)

end Names

/-! ## Words of a field's name -/

/-- A word with a capital first letter. -/
def capitalize : List Char → List Char
  | [] => []
  | c :: cs => Text.capital c ++ cs

/-- A name as one word: its parts between underscores, each with a capital first letter. A name of
underscores only becomes `Field`. -/
def pascalCase (name : String) : String :=
  let cs := (Text.splitWhere (· == '_') name.toList).flatMap capitalize
  if cs.isEmpty then "Field" else String.ofList cs

end TypedQuery.Client
