/-!
# Tables in insertion order

`Table α` pairs names with values and remembers the order in which the names first came. It is
the order in which a schema lists its types, a JSON object its members and a request its headers.

* `Table.put`: a name that is new goes to the end, a known one keeps its place and changes its
  value.
* `Table.get?_put`: a look-up after `put` sees exactly that change.
-/

namespace TypedQuery

/-- Values by name, in the order in which the names were first put. -/
abbrev Table (α : Type) := List (String × α)

namespace Table

variable {α : Type}

/-- The value under `name`. -/
def get? : Table α → String → Option α
  | [], _ => none
  | (k, v) :: rest, name => if k = name then some v else get? rest name

/-- Sets the value under `name`, in place if the name is known and at the end if it is not. -/
def put : Table α → String → α → Table α
  | [], name, value => [(name, value)]
  | (k, v) :: rest, name, value =>
    if k = name then (k, value) :: rest else (k, v) :: put rest name value

/-- The names, in order. -/
def names (t : Table α) : List String := t.map Prod.fst

/-- The values, in order. -/
def values (t : Table α) : List α := t.map Prod.snd

/-- Puts each of `entries` in turn. -/
def putAll (t : Table α) (entries : List (String × α)) : Table α :=
  entries.foldl (fun t e => t.put e.1 e.2) t

/-- The table that putting `entries` one after the other builds. -/
def ofList (entries : List (String × α)) : Table α := putAll [] entries

theorem get?_put (t : Table α) (name key : String) (value : α) :
    (t.put name value).get? key = if name = key then some value else t.get? key := by
  induction t with
  | nil => simp [put, get?]
  | cons e rest ih =>
    obtain ⟨k, v⟩ := e
    by_cases hk : k = name
    · subst hk; by_cases hq : k = key <;> simp [put, get?, hq]
    · by_cases hq : k = key
      · subst hq; simp [put, get?, hk, Ne.symm hk]
      · simp [put, get?, hk, hq, ih]

theorem names_put (t : Table α) (name : String) (value : α) :
    (t.put name value).names = if name ∈ t.names then t.names else t.names ++ [name] := by
  induction t with
  | nil => simp [put, names]
  | cons e rest ih =>
    obtain ⟨k, v⟩ := e
    by_cases hk : k = name
    · simp [put, names, hk]
    · simp only [names] at ih
      by_cases hm : name ∈ rest.map Prod.fst
      · simp [put, names, hk, ih, hm]
      · simp [put, names, hk, ih, hm, Ne.symm hk]

end Table

end TypedQuery
