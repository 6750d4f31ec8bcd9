import TypedQuery.Files.Extract
import TypedQuery.Proofs.Basic

/-!
# What file operations leave alone

Extracting an archive changes nothing outside the directory that it is extracted to. Making the
directories on the way to a place adds these directories and changes nothing else.

* `FileTree.SameBut`: trees that differ at a place and below it only.
* `FileTree.sameBut_extract`, `FileTree.sameBut_addEntries`: what extracting does to a tree.
* `FileTree.Paves`: a tree with more directories on the way to a place.
* `FileTree.paves_makeDirs`: what making directories does to a tree.
-/

namespace TypedQuery

namespace PathText

/-- The parts of a path lead to the place where they are written one behind the other. -/
theorem isStep_resolve {cwd : Place} {path : String} (hcwd : ∀ name ∈ cwd, IsStep name) :
    ∀ name ∈ (ofText path).resolve cwd, IsStep name := by
  have hparts : ∀ part ∈ (ofText path).parts, part ≠ "" ∧ part ≠ "." := by
    intro part hpart
    simpa using (List.mem_filter.1 hpart).2
  have horigin : ∀ name ∈ (ofText path).origin cwd, IsStep name := by
    unfold origin
    split
    · simp
    · exact hcwd
  unfold resolve
  generalize (ofText path).origin cwd = here at horigin
  generalize (ofText path).parts = parts at hparts
  induction parts generalizing here with
  | nil => exact horigin
  | cons part parts ih =>
    obtain ⟨hpart, hparts⟩ := List.forall_mem_cons.1 hparts
    refine ih _ (fun name hname => ?_) hparts
    dsimp only at hname
    split at hname
    · exact horigin name (List.dropLast_subset _ hname)
    · rename_i hdots
      rcases List.mem_append.1 hname with hname | hname
      · exact horigin name hname
      · rw [List.mem_singleton.1 hname]
        exact ⟨hpart.1, hpart.2, hdots⟩

end PathText

namespace FileTree

variable {t t' t'' : FileTree} {here q : Place}

/-! ## Finding places -/

theorem step_eq_ok {name : String} (hname : IsStep name) (h : t.step here name = .ok q) :
    q = here ++ [name] := by
  obtain ⟨hempty, hdot, hdots⟩ := hname
  unfold step at h
  rw [if_neg (not_or.2 ⟨hempty, hdot⟩), if_neg hdots] at h
  split at h
  · split at h
    · cases h
    · exact (Except.ok.inj h).symm
  · cases h

theorem walk_eq_ok {names : List String} (hnames : ∀ name ∈ names, IsStep name)
    (h : t.walk here names = .ok q) : q = here ++ names := by
  induction names generalizing here with
  | nil =>
    rw [List.append_nil]
    exact (Except.ok.inj h).symm
  | cons name names ih =>
    obtain ⟨hname, hnames⟩ := List.forall_mem_cons.1 hnames
    have hfold : (t.step here name >>= fun next => t.walk next names) = .ok q := h
    obtain ⟨next, hnext, hrest⟩ := bind_eq_ok.1 hfold
    rw [ih hnames hrest, step_eq_ok hname hnext, List.append_assoc, List.singleton_append]

/-- A path from the top of the tree leads where its parts say. -/
theorem locatePath_eq_ok {cwd : Place} {p : PathText} (htop : p.origin cwd = [])
    (hparts : ∀ name ∈ p.parts, IsStep name) (h : t.locatePath cwd p = .ok q) : q = p.parts := by
  unfold locatePath at h
  split at h
  · cases h
  · rw [htop] at h
    exact walk_eq_ok hparts h

theorem origin_nil (p : PathText) : p.origin [] = [] := by
  unfold PathText.origin
  split <;> rfl

/-! ## Trees that differ in one directory -/

/-- The trees are the same but for what is at `p` or below. -/
def SameBut (p : Place) (t t' : FileTree) : Prop := t'.removeAll p = t.removeAll p

namespace SameBut

variable {p : Place}

theorem refl (p : Place) (t : FileTree) : SameBut p t t := rfl

theorem trans (h : SameBut p t t') (h' : SameBut p t' t'') : SameBut p t t'' := Eq.trans h' h

theorem addDir (t : FileTree) (h : p <+: q) : SameBut p t (t.addDir q) := by
  unfold SameBut FileTree.addDir
  split
  · rfl
  · simp [removeAll, List.isPrefixOf_iff_prefix.2 h]

theorem put (t : FileTree) (h : p <+: q) (c : Content) : SameBut p t (t.put q c) := by
  have hq : (!p.isPrefixOf q) = false := by simp [List.isPrefixOf_iff_prefix.2 h]
  unfold SameBut FileTree.put
  split
  · -- Entries that are replaced keep their place, which is below `p`.
    have hfiles : (t.files.map fun e => if e.1 == q then (q, c) else e).filter
        (fun e => !p.isPrefixOf e.1) = t.files.filter fun e => !p.isPrefixOf e.1 := by
      induction t.files with
      | nil => rfl
      | cons e files ih =>
        rw [List.map_cons]
        by_cases he : e.1 = q
        · simp only [he, beq_self_eq_true, if_true, List.filter_cons, hq]
          exact ih
        · rw [if_neg (by simpa using he), List.filter_cons, List.filter_cons, ih]
    simp only [removeAll, hfiles]
  · simp [removeAll, List.filter_append, hq]

end SameBut

section

variable {base p : PathText} {root : Place}

theorem sameBut_makeDir (hbase : root <+: p.parts) (hparts : ∀ name ∈ p.parts, IsStep name)
    (h : t.makeDir [] p = .ok t') : SameBut root t t' := by
  unfold makeDir at h
  split at h
  · cases h
  · rename_i q hlocate
    split at h
    · cases h
    · cases h
      rw [locatePath_eq_ok (origin_nil p) hparts hlocate]
      exact .addDir t hbase

theorem sameBut_write (hbase : root <+: p.parts) (hparts : ∀ name ∈ p.parts, IsStep name)
    (c : Content) : SameBut root t (t.write [] p c).1 := by
  unfold write
  split
  · exact .refl root t
  · rename_i q hlocate
    split
    · exact .refl root t
    · rw [locatePath_eq_ok (origin_nil p) hparts hlocate]
      exact .put t hbase c

theorem sameBut_makeWay {names : List String} (hbase : root <+: base.parts)
    (hparts : ∀ name ∈ base.parts, IsStep name) (hnames : ∀ name ∈ names, IsStep name) :
    SameBut root t (t.makeWay base names).1 := by
  induction names generalizing t base with
  | nil => exact .refl root t
  | cons name names ih =>
    obtain ⟨hname, hnames⟩ := List.forall_mem_cons.1 hnames
    have hchild : root <+: (base.child name).parts := hbase.trans (List.prefix_append _ _)
    have hsteps : ∀ n ∈ (base.child name).parts, IsStep n := by
      intro n hn
      rcases List.mem_append.1 hn with hn | hn
      · exact hparts n hn
      · rw [List.mem_singleton.1 hn]
        exact hname
    unfold makeWay
    dsimp only
    split
    · exact ih hchild hsteps hnames
    · split
      · exact .refl root t
      · rename_i made hmade
        exact (sameBut_makeDir hchild hsteps hmade).trans (ih hchild hsteps hnames)

theorem sameBut_writeMember (hbase : root <+: p.parts) (hparts : ∀ name ∈ p.parts, IsStep name)
    (m : Archive.Member) : SameBut root t (t.writeMember p m).1 := by
  have hwrite : ∀ c, SameBut root t (t.write [] p c).1 := sameBut_write hbase hparts
  unfold writeMember
  split
  · exact .refl root t
  · split
    · rename_i made e hmade _
      rw [← congrArg Prod.fst hmade]
      exact hwrite []
    · rename_i made why hmade _
      rw [← congrArg Prod.fst hmade]
      exact hwrite []
    · exact hwrite _

theorem isStep_memberNames (member : String) : ∀ name ∈ memberNames member, IsStep name := by
  intro name hname
  simpa [IsStep, and_assoc] using (List.mem_filter.1 hname).2

theorem sameBut_extractMember (hbase : root <+: base.parts)
    (hparts : ∀ name ∈ base.parts, IsStep name) (m : Archive.Member) :
    SameBut root t (extractMember base t m).1 := by
  have hnames := isStep_memberNames m.name
  have hway : SameBut root t (t.makeWay base (memberNames m.name).dropLast).1 :=
    sameBut_makeWay hbase hparts fun n hn => hnames n (List.dropLast_subset _ hn)
  have htarget : root <+: base.parts ++ memberNames m.name := hbase.trans (List.prefix_append _ _)
  have hsteps : ∀ n ∈ base.parts ++ memberNames m.name, IsStep n :=
    List.forall_mem_append.2 ⟨hparts, hnames⟩
  unfold extractMember
  dsimp only
  split
  · rename_i made e hmade
    rw [hmade] at hway
    exact hway
  · rename_i made hmade
    rw [hmade] at hway
    split
    · exact hway
    · split
      · exact hway
      · split
        · exact hway
        · rename_i t' hdir
          exact hway.trans (sameBut_makeDir htarget hsteps hdir)
    · exact hway.trans (sameBut_writeMember htarget hsteps m)

/-- Extracting members into a directory changes nothing outside it. -/
theorem sameBut_extract (hbase : root <+: base.parts) (hparts : ∀ name ∈ base.parts, IsStep name)
    (ms : List Archive.Member) : SameBut root t (extract base t ms).1 := by
  induction ms generalizing t with
  | nil => exact .refl root t
  | cons m ms ih =>
    have hmember : SameBut root t (extractMember base t m).1 :=
      sameBut_extractMember hbase hparts m
    unfold extract
    split
    · rename_i made e hmade
      rw [hmade] at hmember
      exact hmember
    · rename_i made hmade
      rw [hmade] at hmember
      exact hmember.trans ih

end

/-! ## Entries of tar archives -/

section

variable {root base : Place}

theorem sameBut_addWay (hbase : root <+: base) (way : List Archive.Tar.Step) :
    SameBut root t (t.addWay base way) := by
  induction way generalizing t base with
  | nil => exact .refl root t
  | cons name way ih =>
    have hnext : root <+: base ++ [name.val] := hbase.trans (List.prefix_append _ _)
    exact (SameBut.addDir t hnext).trans (ih hnext)

theorem sameBut_addEntry (hbase : root <+: base) (e : Archive.Tar.Entry) :
    SameBut root t (addEntry base t e) := by
  cases e with
  | directory way => exact sameBut_addWay hbase way
  | file way name content =>
    have hfile : root <+: base ++ way.map Subtype.val ++ [name.val] :=
      (hbase.trans (List.prefix_append _ _)).trans (List.prefix_append _ _)
    exact (sameBut_addWay hbase way).trans (.put _ hfile content)

/-- What is made of a tar archive below a directory changes nothing outside it. -/
theorem sameBut_addEntries (hbase : root <+: base) (made : List Archive.Tar.Entry) :
    SameBut root t (made.foldl (addEntry base) t) := by
  induction made generalizing t with
  | nil => exact .refl root t
  | cons e made ih => exact (sameBut_addEntry hbase e).trans ih

end

/-! ## Directories on the way -/

/-- `t'` has more directories than `t`, all of them on the way to `p` and at places where nothing
was, and the same files. -/
structure Paves (p : Place) (t t' : FileTree) : Prop where
  files_eq : t'.files = t.files
  exists_dirs : ∃ made, t'.dirs = t.dirs ++ made ∧ ∀ q ∈ made, q <+: p ∧ t.has q = false

namespace Paves

variable {p : Place}

theorem refl (p : Place) (t : FileTree) : Paves p t t :=
  ⟨rfl, [], (List.append_nil _).symm, by simp⟩

theorem isFile_eq (h : Paves p t t') (q : Place) : t'.isFile q = t.isFile q := by
  unfold isFile file?
  rw [h.files_eq]

theorem has_of_has (h : Paves p t t') (hq : t.has q = true) : t'.has q = true := by
  obtain ⟨made, hmade, -⟩ := h.exists_dirs
  simp only [has, Bool.or_eq_true, h.isFile_eq] at hq ⊢
  refine hq.imp_left fun hdir => ?_
  simp only [isDir, hmade, Bool.or_eq_true, List.contains_iff_mem, List.mem_append] at hdir ⊢
  exact hdir.imp_right .inl

theorem trans (h : Paves p t t') (h' : Paves p t' t'') : Paves p t t'' := by
  obtain ⟨made, hmade, hnew⟩ := h.exists_dirs
  obtain ⟨made', hmade', hnew'⟩ := h'.exists_dirs
  refine ⟨h'.files_eq.trans h.files_eq, made ++ made', by rw [hmade', hmade, List.append_assoc], ?_⟩
  refine List.forall_mem_append.2 ⟨hnew, fun q hq => ⟨(hnew' q hq).1, ?_⟩⟩
  refine Bool.eq_false_iff.2 fun hhas => ?_
  have hhas' := h.has_of_has hhas
  rw [(hnew' q hq).2] at hhas'
  cases hhas'

theorem addDir (hp : q <+: p) (hq : t.has q = false) : Paves p t (t.addDir q) := by
  have hdir : t.isDir q = false := (Bool.or_eq_false_iff.1 hq).1
  unfold FileTree.addDir
  rw [hdir]
  exact ⟨rfl, [q], rfl, by simpa using ⟨hp, hq⟩⟩

end Paves

/-- Making directories from `here` on adds directories on the way and nothing else. -/
theorem paves_makeDirsFrom {p : PathText} {names : List String}
    (hnames : ∀ name ∈ names, IsStep name) (done : Option PathText) :
    Paves (here ++ names) t (t.makeDirsFrom p here done names).1 := by
  induction names generalizing t here done with
  | nil => exact .refl _ t
  | cons name names ih =>
    obtain ⟨hname, hnames⟩ := List.forall_mem_cons.1 hnames
    have hway : here ++ name :: names = here ++ [name] ++ names := by simp
    rw [hway]
    unfold makeDirsFrom
    dsimp only
    split
    · exact .refl _ t
    · rename_i q hstep
      obtain rfl := step_eq_ok hname hstep
      split
      · exact ih hnames _
      · rename_i hdir
        split
        · exact .refl _ t
        · rename_i hfile
          have hfree : t.has (here ++ [name]) = false := by simp [has, hdir, hfile]
          exact (Paves.addDir (List.prefix_append _ _) hfree).trans (ih hnames _)

theorem paves_makeDirs {cwd : Place} {p : PathText} (htop : p.origin cwd = [])
    (hparts : ∀ name ∈ p.parts, IsStep name) : Paves p.parts t (t.makeDirs cwd p).1 := by
  unfold makeDirs
  split
  · exact .refl _ t
  · rw [htop]
    have hway : Paves ([] ++ p.parts) t (t.makeDirsFrom p [] none p.parts).1 :=
      paves_makeDirsFrom hparts none
    exact hway

/-- Writing a file puts it where its path leads to, or changes nothing. -/
theorem write_cases {cwd : Place} {p : PathText} (htop : p.origin cwd = [])
    (hparts : ∀ name ∈ p.parts, IsStep name) (c : Content) :
    (∃ e, t.write cwd p c = (t, some e)) ∨ t.write cwd p c = (t.put p.parts c, none) := by
  unfold write
  split
  · exact .inl ⟨_, rfl⟩
  · rename_i q hlocate
    split
    · exact .inl ⟨_, rfl⟩
    · rw [locatePath_eq_ok htop hparts hlocate]
      exact .inr rfl

end FileTree

end TypedQuery
