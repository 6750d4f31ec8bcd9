import TypedQuery.Files.Tree
import TypedQuery.Proofs.Client.Coherent

/-!
# Refusals of the file system

A path with a null byte in it is no path at all. For every other path, whatever the file system says
against it is a refusal, which has a number.

* `PathText.nullFree_text`, `PathText.nullFree_resolve`: paths that are put together from names.
* `FileTree.isRefusal_of_makeDirs`, `FileTree.isRefusal_of_write`: why a directory is not made, or a
  file not written.
-/

namespace TypedQuery

/-- There is no null byte in the text. -/
def NullFree (s : String) : Prop := '\x00' ∉ s.toList

instance (s : String) : Decidable (NullFree s) := inferInstanceAs (Decidable ('\x00' ∉ s.toList))

theorem FileError.isRefusal_iff {e : FileError} : e.isRefusal = true ↔ e.cause ≠ .nullByte := by
  rcases e with ⟨_ | _ | _ | _ | _ | _, path⟩ <;> simp [isRefusal, Cause.code?]

/-! ## Paths -/

namespace PathText

theorem nullFree_intercalate {parts : List String} (h : ∀ part ∈ parts, NullFree part) :
    NullFree ("/".intercalate parts) := by
  rw [NullFree, String.toList_intercalate]
  induction parts with
  | nil => simp [List.intercalate]
  | cons part parts ih =>
    obtain ⟨hpart, hparts⟩ := List.forall_mem_cons.1 h
    cases parts with
    | nil => simpa [List.intercalate, NullFree] using hpart
    | cons next parts =>
      have hrest := ih hparts
      simp only [List.map_cons, List.intercalate_cons_cons, List.mem_append, not_or] at hrest ⊢
      exact ⟨⟨hpart, by decide⟩, hrest⟩

theorem nullFree_text {p : PathText} (htop : ∀ top, p.top = some top → NullFree top)
    (hparts : ∀ part ∈ p.parts, NullFree part) : NullFree p.text := by
  have hjoined := nullFree_intercalate hparts
  unfold text
  split
  · rename_i top hsome
    rw [NullFree, String.toList_append, List.mem_append, not_or]
    exact ⟨htop top hsome, hjoined⟩
  · split
    · decide
    · exact hjoined

/-- The parts of a path have no other characters than the path. -/
theorem nullFree_parts {path : String} (h : NullFree path) :
    ∀ part ∈ (ofText path).parts, NullFree part := by
  intro part hpart hnull
  obtain ⟨cs, hcs, rfl⟩ := List.mem_map.1 (List.mem_filter.1 hpart).1
  rw [String.toList_ofList] at hnull
  exact h (Client.mem_of_mem_splitWhere hcs hnull)

theorem nullFree_resolve {cwd : Place} {p : PathText} (hcwd : ∀ name ∈ cwd, NullFree name)
    (hparts : ∀ part ∈ p.parts, NullFree part) : ∀ name ∈ p.resolve cwd, NullFree name := by
  have hstart : ∀ name ∈ p.origin cwd, NullFree name := by
    unfold origin
    split
    · simp
    · exact hcwd
  have hrun (parts : List String) (hparts : ∀ part ∈ parts, NullFree part) (here : Place)
      (hhere : ∀ name ∈ here, NullFree name) : ∀ name ∈ parts.foldl (fun here n =>
        if n = ".." then here.dropLast else here ++ [n]) here, NullFree name := by
    induction parts generalizing here with
    | nil => exact hhere
    | cons part parts ih =>
      obtain ⟨hpart, hparts⟩ := List.forall_mem_cons.1 hparts
      refine ih hparts _ ?_
      dsimp only
      split
      · exact fun name hname => hhere name (List.dropLast_subset here hname)
      · intro name hname
        rcases List.mem_append.1 hname with hname | hname
        · exact hhere name hname
        · exact List.mem_singleton.1 hname ▸ hpart
  exact hrun p.parts hparts _ hstart

end PathText

/-! ## Steps -/

namespace FileTree

variable {t : FileTree} {cwd here : Place} {p : PathText}

theorem textFault?_ne_nullByte {path : String} (h : NullFree path) :
    textFault? path ≠ some .nullByte := by
  unfold textFault?
  rw [if_neg (by simpa [NullFree] using h)]
  split <;> simp

theorem nullFree_of_textFault? {path : String} (h : textFault? path ≠ some .nullByte) :
    NullFree path := by
  intro hnull
  rw [textFault?, if_pos (by simpa using hnull)] at h
  exact h rfl

theorem step_ne_nullByte {name : String} : t.step here name ≠ .error .nullByte := by
  unfold step
  repeat' split
  all_goals simp

theorem walk_ne_nullByte {names : List String} : t.walk here names ≠ .error .nullByte := by
  induction names generalizing here with
  | nil => simp [walk, pure, Except.pure]
  | cons name names ih =>
    rw [walk, List.foldlM_cons]
    cases hstep : t.step here name with
    | error cause =>
      intro h
      cases h
      exact step_ne_nullByte hstep
    | ok next => exact ih

theorem locatePath_ne_nullByte (h : NullFree p.text) : t.locatePath cwd p ≠ .error .nullByte := by
  unfold locatePath
  split
  · rename_i cause hfault
    intro hc
    cases hc
    exact textFault?_ne_nullByte h hfault
  · exact walk_ne_nullByte

theorem cause_of_makeDirsFrom {done : Option PathText} {names : List String} {e : FileError}
    (h : (t.makeDirsFrom p here done names).2 = some e) : e.cause ≠ .nullByte := by
  induction names generalizing t here done with
  | nil => cases h
  | cons name names ih =>
    rw [makeDirsFrom] at h
    split at h
    · rename_i cause hstep
      cases h
      rintro rfl
      exact step_ne_nullByte hstep
    · split at h
      · exact ih h
      · split at h
        · cases h
          dsimp only
          split <;> simp
        · exact ih h

/-- Directories that are not made are refused. -/
theorem isRefusal_of_makeDirs (hp : NullFree p.text) {e : FileError}
    (h : (t.makeDirs cwd p).2 = some e) : e.isRefusal = true := by
  rw [FileError.isRefusal_iff]
  unfold makeDirs at h
  split at h
  · rename_i cause hfault
    cases h
    rintro rfl
    exact textFault?_ne_nullByte hp hfault
  · exact cause_of_makeDirsFrom h

/-- A file that is not written is refused. -/
theorem isRefusal_of_write (hp : NullFree p.text) {c : Content} {e : FileError}
    (h : (t.write cwd p c).2 = some e) : e.isRefusal = true := by
  rw [FileError.isRefusal_iff]
  unfold write at h
  split at h
  · rename_i cause hlocate
    cases h
    rintro rfl
    exact locatePath_ne_nullByte hp hlocate
  · split at h
    · cases h
      simp
    · cases h

end FileTree

end TypedQuery
