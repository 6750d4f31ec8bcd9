import TypedQuery.Proofs.Cli.Settling
import TypedQuery.Proofs.Files.Framing

/-!
# What a run leaves behind

A run changes the file tree only by writing the client, and that comes last. An archive is unpacked
to a directory that is gone again when the schema is read, whatever happened in between. This is so
on every platform, however it extracts tar archives and whatever it makes of templates.

* `Workspace.Proper`, `Workspace.Fresh`: where a program works.
* `Cli.loadSchema_tree`: reading a schema leaves the tree as it was.
* `Client.write_of_ok`: what writing a client does to the tree.
* `Cli.run_preserves_tree`: all runs.
-/

namespace TypedQuery

/-- The directories that a program works in are given by names that lead down. -/
structure Workspace.Proper (w : Workspace) : Prop where
  cwd : ∀ name ∈ w.cwd, IsStep name
  temp : ∀ name ∈ w.temp, IsStep name

theorem Workspace.Proper.place {w : Workspace} (hw : w.Proper) (path : String) :
    ∀ name ∈ w.place path, IsStep name :=
  PathText.isStep_resolve hw.cwd

/-- There is nothing where archives are unpacked to. -/
def Workspace.Fresh (w : Workspace) (t : FileTree) : Prop := ∀ q, w.temp <+: q → t.has q = false

namespace FileTree

variable {t t' : FileTree} {p q : Place}

/-! ## What is in a tree -/

theorem isFile_iff : t.isFile q = true ↔ q ∈ t.files.map Prod.fst := by
  simp [isFile, file?, List.find?_isSome]

theorem has_iff : t.has q = true ↔ q = [] ∨ q ∈ t.dirs ∨ q ∈ t.files.map Prod.fst := by
  rw [has, Bool.or_eq_true, isFile_iff, isDir, Bool.or_eq_true, List.isEmpty_iff,
    List.contains_iff_mem, or_assoc]

/-- Removing what is not there changes nothing. -/
theorem removeAll_of_forall (h : ∀ q, p <+: q → t.has q = false) : t.removeAll p = t := by
  have hkeep : ∀ q, t.has q = true → (!p.isPrefixOf q) = true := by
    intro q hq
    rw [Bool.not_eq_true', Bool.eq_false_iff, Ne, List.isPrefixOf_iff_prefix]
    intro hprefix
    rw [h q hprefix] at hq
    cases hq
  have hdirs : t.dirs.filter (fun q => !p.isPrefixOf q) = t.dirs :=
    List.filter_eq_self.2 fun q hq => hkeep q (has_iff.2 (.inr (.inl hq)))
  have hfiles : t.files.filter (fun e => !p.isPrefixOf e.1) = t.files :=
    List.filter_eq_self.2 fun e he => hkeep e.1 (has_iff.2 (.inr (.inr (List.mem_map_of_mem he))))
  unfold removeAll
  rw [hdirs, hfiles]

theorem Paves.has_cases (h : Paves p t t') (hq : t'.has q = true) : t.has q = true ∨ q <+: p := by
  obtain ⟨made, hmade, hnew⟩ := h.exists_dirs
  rw [has_iff, hmade, h.files_eq, List.mem_append] at hq
  rw [has_iff]
  rcases hq with hq | (hq | hq) | hq
  · exact .inl (.inl hq)
  · exact .inl (.inr (.inl hq))
  · exact .inr (hnew q hq).1
  · exact .inl (.inr (.inr hq))

theorem has_put_cases {c : Content} (hq : (t.put p c).has q = true) : t.has q = true ∨ q = p := by
  rw [has_iff] at hq
  unfold put at hq
  split at hq
  · have hsame : (t.files.map fun e => if e.1 == p then (p, c) else e).map Prod.fst =
        t.files.map Prod.fst := by
      rw [List.map_map]
      refine List.map_congr_left fun e _ => ?_
      by_cases he : e.1 = p <;> simp [he]
    rw [hsame] at hq
    exact .inl (has_iff.2 hq)
  · simp only [List.map_append, List.map_cons, List.map_nil, List.mem_append,
      List.mem_singleton] at hq
    rw [has_iff]
    tauto

end FileTree

open FileTree

/-! ## Reading a schema -/

namespace Cli

variable {w : Workspace} {t : FileTree} {p : Place}

/-- Unpacking changes nothing outside the temporary directory, however far it gets. -/
theorem unpack_tree (hw : w.Proper) (path name : String) (c : Content) :
    SameBut w.temp t (unpack w t path name c).1 := by
  unfold unpack
  split
  · split
    · exact .refl w.temp t
    · rename_i members _
      exact sameBut_extract List.prefix_rfl hw.temp members
  · split
    · exact sameBut_addEntries List.prefix_rfl (w.platform.untar c).made
    · exact .refl w.temp t

/-- Extracting an archive changes nothing outside the temporary directory, and removes it if it
fails. -/
theorem extractArchive_tree (hw : w.Proper) (name : String) (c : Content) :
    (∀ e, (extractArchive w t p name c).2 = some e →
      (extractArchive w t p name c).1 = t.removeAll w.temp) ∧
    SameBut w.temp t (extractArchive w t p name c).1 := by
  have hmade : SameBut w.temp t (t.addDir w.temp) := .addDir t List.prefix_rfl
  have hunpack := hmade.trans (unpack_tree hw (w.path p).text name c)
  unfold extractArchive
  split
  · rename_i t' e hresult
    rw [hresult] at hunpack
    refine ⟨fun _ _ => hunpack, ?_⟩
    unfold SameBut at hunpack ⊢
    rw [hunpack]
    simp [removeAll]
  · rename_i t' hresult
    rw [hresult] at hunpack
    refine ⟨fun e he => ?_, hunpack⟩
    cases he

/-- Reading a schema leaves the tree as it was, whether it succeeds or not. -/
theorem loadSchema_tree (hw : w.Proper) (ht : w.Fresh t) (verbose : Bool) :
    (loadSchema w t p verbose).tree = t := by
  have hfresh : t.removeAll w.temp = t := removeAll_of_forall ht
  unfold loadSchema
  dsimp only
  split
  · rfl
  · split
    · rfl
    · rename_i c _
      split
      · obtain ⟨herror, hsame⟩ := extractArchive_tree (p := p) (t := t) hw (p.getLast?.getD "") c
        split
        · rename_i t' e hresult
          rw [hresult] at herror
          exact (herror e rfl).trans hfresh
        · rename_i t' hresult
          rw [hresult] at hsame
          exact Eq.trans hsame hfresh
      · rfl

end Cli

/-! ## Writing a client -/

namespace Client

variable {w : Workspace} {t : FileTree} {s : Schema} {o : WriteOptions}

theorem write_of_error {e : WriteError} (h : generateIn w t s o = .error e) (p : PathText) :
    (write w t s o p).tree = t ∧ (write w t s o p).error = some e := by
  delta write
  rw [h]
  exact ⟨rfl, rfl⟩

theorem write_of_ok {text : String} (h : generateIn w t s o = .ok text) (target : Place) :
    (write w t s o (w.path target)).error.isSome =
      (writeText w t (w.path target) text).2.isSome ∧
    (write w t s o (w.path target)).tree = (writeText w t (w.path target) text).1 := by
  delta write
  rw [h]
  dsimp only
  cases hwrite : writeText w t (w.path target) text with
  | mk t' error => cases error <;> exact ⟨rfl, rfl⟩

/-- A text is written to a file, or directories on the way to it are all that is new. -/
theorem writeText_cases (t : FileTree) (text : String) {target : Place}
    (htarget : ∀ name ∈ target, IsStep name) :
    ((writeText w t (w.path target) text).2.isSome = true ∧
      Paves target.dropLast t (writeText w t (w.path target) text).1) ∨
    ((writeText w t (w.path target) text).2 = none ∧ ∃ t', Paves target.dropLast t t' ∧
      (writeText w t (w.path target) text).1 = t'.put target (Utf8.encode text)) := by
  have hparent : ∀ name ∈ target.dropLast, IsStep name := fun name hname =>
    htarget name (List.dropLast_subset _ hname)
  have hdirs : Paves (w.path target).parent.parts t (t.makeDirs w.cwd (w.path target).parent).1 :=
    paves_makeDirs rfl hparent
  unfold writeText
  split
  · rename_i t' e hmade
    rw [hmade] at hdirs
    exact .inl ⟨rfl, hdirs⟩
  · rename_i t' hmade
    rw [hmade] at hdirs
    have hfile : (∃ e, t'.write w.cwd (w.path target) (Utf8.encode text) = (t', some e)) ∨
        t'.write w.cwd (w.path target) (Utf8.encode text) =
          (t'.put (w.path target).parts (Utf8.encode text), none) :=
      write_cases rfl htarget (Utf8.encode text)
    rcases hfile with ⟨e, he⟩ | hput
    · rw [he]
      exact .inl ⟨rfl, hdirs⟩
    · rw [hput]
      exact .inr ⟨rfl, t', hdirs, rfl⟩

end Client

/-! ## Runs -/

namespace Cli

variable {w : Workspace} {t : FileTree}

theorem check_tree (hw : w.Proper) (ht : w.Fresh t) (schema : String) (verbose : Bool) :
    (check w t schema verbose).tree = t := by
  unfold check
  dsimp only
  split
  · exact loadSchema_tree hw ht verbose
  · exact loadSchema_tree hw ht verbose

section

variable {schema : String} {verbose : Bool}

theorem generate_of_load_error (hw : w.Proper) (ht : w.Fresh t) {e : CommandError}
    (h : (loadSchema w t (w.place schema) verbose).result = .error e) (output : String)
    (o : Client.WriteOptions) :
    (generate w t schema output o verbose).error.isSome = true ∧
      (generate w t schema output o verbose).tree = t := by
  unfold generate
  dsimp only
  rw [show (loadSchema w t ((PathText.ofText schema).resolve w.cwd) verbose).result = _ from h]
  exact ⟨rfl, loadSchema_tree hw ht verbose⟩

/-- After a schema was read, the client is written to the tree that was there before. -/
theorem generate_of_load_ok (hw : w.Proper) (ht : w.Fresh t) {s : Schema}
    (h : (loadSchema w t (w.place schema) verbose).result = .ok s) (output : String)
    (o : Client.WriteOptions) :
    ((generate w t schema output o verbose).error.isSome =
      (Client.write w t s o (w.path (w.place output))).error.isSome) ∧
    (generate w t schema output o verbose).tree =
      (Client.write w t s o (w.path (w.place output))).tree := by
  have htree := loadSchema_tree (p := w.place schema) hw ht verbose
  unfold generate
  dsimp only
  rw [show (loadSchema w t ((PathText.ofText schema).resolve w.cwd) verbose).result = _ from h,
    show (loadSchema w t ((PathText.ofText schema).resolve w.cwd) verbose).tree = _ from htree]
  dsimp only
  split
  · rename_i e he
    rw [show (Client.write w t s o (w.path (w.place output))).error = _ from he]
    exact ⟨rfl, rfl⟩
  · rename_i he
    rw [show (Client.write w t s o (w.path (w.place output))).error = _ from he]
    exact ⟨rfl, rfl⟩

end

/-- Arguments that do not ask for a client leave the tree alone. -/
theorem run_tree_of_not_generate (program : String) (hw : w.Proper) (ht : w.Fresh t)
    {args : List String} (h : ∀ g, Invocation.ofArgs t w.cwd args ≠ .ok (.generate g)) :
    (run program w t args).tree = t := by
  unfold run
  split
  · rfl
  · rfl
  · rename_i i hi
    cases i with
    | check schema verbose => exact check_tree hw ht schema verbose
    | generate g => exact absurd hi (h g)
    | _ => rfl

/-- Wherever an archive was unpacked to, nothing is left there but what leads to the output. -/
theorem generate_temp (hw : w.Proper) (ht : w.Fresh t) {schema output : String}
    {o : Client.WriteOptions} {verbose : Bool} {q : Place} (hq : w.temp <+: q)
    (h : (generate w t schema output o verbose).tree.has q = true) : q <+: w.place output := by
  have hnone : ¬ t.has q = true := by
    rw [ht q hq]
    exact Bool.false_ne_true
  have hparent : (w.place output).dropLast <+: w.place output := List.dropLast_prefix _
  cases hload : (loadSchema w t (w.place schema) verbose).result with
  | error e =>
    rw [(generate_of_load_error hw ht hload output o).2] at h
    exact absurd h hnone
  | ok s =>
    rw [(generate_of_load_ok hw ht hload output o).2] at h
    cases htext : Client.generateIn w t s o with
    | error e =>
      rw [(Client.write_of_error htext _).1] at h
      exact absurd h hnone
    | ok text =>
      rw [(Client.write_of_ok htext _).2] at h
      rcases Client.writeText_cases t text (hw.place output) with
        ⟨-, hpaves⟩ | ⟨-, t', hpaves, htree⟩
      · exact ((hpaves.has_cases h).resolve_left hnone).trans hparent
      · rw [htree] at h
        rcases has_put_cases h with h | rfl
        · exact ((hpaves.has_cases h).resolve_left hnone).trans hparent
        · exact List.prefix_rfl

/-- **What a run leaves behind.** Take a program that works in proper directories of any platform,
any file tree that has nothing where archives are unpacked to, and any arguments. Unless they ask for
a client, the tree stays as it is. If they do and the schema cannot be read, unpacked or parsed, or
the module cannot be planned or rendered, with or without a template, the run fails and the tree
stays as it is, even if a part of the archive had been unpacked. Otherwise the run fails with the
same files and perhaps new directories on the way to the output, or it ends well, and the output is
written besides. Whatever happens, nothing is left in the directory that archives are unpacked to,
apart from what leads to the output. -/
theorem run_preserves_tree (program : String) (w : Workspace) (hw : w.Proper) (t : FileTree)
    (ht : w.Fresh t) (args : List String) (out : Outcome) (hrun : run program w t args = out) :
    ((∀ g, Invocation.ofArgs t w.cwd args ≠ .ok (.generate g)) → out.tree = t) ∧
    ∀ g, Invocation.ofArgs t w.cwd args = .ok (.generate g) →
      (∀ e, (loadSchema w t (w.place g.schema) g.verbose).result = .error e →
        out.exitCode = 1 ∧ out.tree = t) ∧
      (∀ s, (loadSchema w t (w.place g.schema) g.verbose).result = .ok s →
        (∀ e, Client.generateIn w t s g.options = .error e → out.exitCode = 1 ∧ out.tree = t) ∧
        ∀ text, Client.generateIn w t s g.options = .ok text →
          ((Client.writeText w t (w.path (w.place g.output)) text).2.isSome = true →
            out.exitCode = 1 ∧ Paves (w.place g.output).dropLast t out.tree) ∧
          ((Client.writeText w t (w.path (w.place g.output)) text).2 = none →
            out.exitCode = 0 ∧ ∃ t', Paves (w.place g.output).dropLast t t' ∧
              out.tree = t'.put (w.place g.output) (Utf8.encode text))) ∧
      ∀ q, w.temp <+: q → out.tree.has q = true → q <+: w.place g.output := by
  subst hrun
  refine ⟨run_tree_of_not_generate program hw ht, fun g hg => ?_⟩
  have hrun : run program w t args =
      .ofReport (generate w t g.schema g.output g.options g.verbose) := by
    rw [run, hg]
    rfl
  have hcode : ∀ r : Report, (Outcome.ofReport r).exitCode = if r.error.isSome then 1 else 0 :=
    fun _ => rfl
  have htree : ∀ r : Report, (Outcome.ofReport r).tree = r.tree := fun _ => rfl
  rw [hrun, hcode, htree]
  refine ⟨fun e he => ?_, fun s hs => ⟨fun e he => ?_, fun text htext => ?_⟩,
    fun q hq hhas => generate_temp hw ht hq hhas⟩
  · obtain ⟨herror, hsame⟩ := generate_of_load_error hw ht he g.output g.options
    exact ⟨if_pos herror, hsame⟩
  · obtain ⟨herror, hsame⟩ := generate_of_load_ok hw ht hs g.output g.options
    obtain ⟨hkeep, hfail⟩ := Client.write_of_error he (w.path (w.place g.output))
    rw [hfail] at herror
    exact ⟨if_pos herror, hsame.trans hkeep⟩
  · obtain ⟨herror, hsame⟩ := generate_of_load_ok hw ht hs g.output g.options
    obtain ⟨hfails, hleft⟩ := Client.write_of_ok htext (w.place g.output)
    rw [hsame, herror, hleft, hfails]
    rcases Client.writeText_cases t text (hw.place g.output) with
      ⟨hfail, hpaves⟩ | ⟨hnone, hwritten⟩
    · refine ⟨fun _ => ⟨if_pos hfail, hpaves⟩, fun hnone => ?_⟩
      rw [hnone] at hfail
      cases hfail
    · rw [hnone]
      refine ⟨fun hsome => ?_, fun _ => ⟨rfl, hwritten⟩⟩
      cases hsome

/-- What `generate` is asked for: a client from an archive, in a directory in whose place the
archive stands. -/
def refusedArgs : List String := ["generate", "-s", "a.zip", "-o", "a.zip/c.py"]

theorem fresh_single (platform : Platform) {name : String} (h : name ≠ "tmp") (c : Content) :
    ({ platform } : Workspace).Fresh { files := [([name], c)] } := by
  intro q hq
  have hq : ["tmp"] <+: q := hq
  refine Bool.eq_false_iff.2 fun hhas => ?_
  rcases has_iff.1 hhas with rfl | hdir | hfile
  · exact absurd hq (by decide)
  · cases hdir
  · rw [List.mem_singleton.1 hfile, List.cons_prefix_cons] at hq
    exact h hq.1.symm

/-- A platform that extracts one file of a tar archive and then fails. -/
def halting : Platform :=
  { untar := fun _ => { made := [.file [] tarFile.1 tarFile.2], stop := some (.failed "") } }

/-- An archive is unpacked and its schema read, and then the directory for the output cannot be
made. Another archive is unpacked in part, and nothing of it is left. -/
theorem run_preserves_tree_refused :
    ({} : Workspace).Proper ∧ ({} : Workspace).Fresh (archived "a.zip") ∧
      (run "main" {} (archived "a.zip") refusedArgs).exitCode = 1 ∧
      Paves ["a.zip"] (archived "a.zip") (run "main" {} (archived "a.zip") refusedArgs).tree ∧
      (run "main" {} (archived "a.zip") refusedArgs).tree.has ["tmp"] = false ∧
      (run "main" { platform := halting } tarred
        ["generate", "-s", "a.tgz", "-o", "c.py"]).exitCode = 1 ∧
      (run "main" { platform := halting } tarred
        ["generate", "-s", "a.tgz", "-o", "c.py"]).tree = tarred := by
  have hproper (platform : Platform) : ({ platform } : Workspace).Proper :=
    ⟨by simp, List.forall_mem_singleton.2 (by decide)⟩
  have ht : ({} : Workspace).Fresh (archived "a.zip") := fresh_single {} (by decide) _
  have hargs : Invocation.ofArgs (archived "a.zip") [] refusedArgs =
      .ok (.generate { schema := "a.zip", output := "a.zip/c.py" }) := by
    decide +kernel
  have hplace : ({} : Workspace).place "a.zip/c.py" = ["a.zip", "c.py"] := by decide
  have hload : ((loadSchema {} (archived "a.zip") (({} : Workspace).place "a.zip")
      false).result.toOption.any fun s => s.objects.all fun o => o.fields.all fun g =>
        1 + g.type.nesting true ≤ 200) = true := by
    decide +kernel
  have hdirs : (archived "a.zip").makeDirs ({} : Workspace).cwd
      (({} : Workspace).path ["a.zip", "c.py"]).parent =
        (archived "a.zip", some ⟨.alreadyExists, "/a.zip"⟩) := by
    decide +kernel
  obtain ⟨s, hs, hshallow⟩ := (Option.any_eq_true _ _).1 hload
  rw [toOption_eq_some] at hs
  simp only [List.all_eq_true, decide_eq_true_eq] at hshallow
  obtain ⟨text, htext⟩ := (Client.generateIn_default {} (archived "a.zip")
    (wellFormed_of_loadSchema hs)).2 hshallow
  have hfails : (Client.writeText {} (archived "a.zip") (({} : Workspace).path ["a.zip", "c.py"])
      text).2.isSome = true := by
    unfold Client.writeText
    rw [hdirs]
    rfl
  obtain ⟨-, hgenerate⟩ :=
    run_preserves_tree "main" {} (hproper {}) (archived "a.zip") ht refusedArgs _ rfl
  obtain ⟨-, hwritten, htemp⟩ := hgenerate _ hargs
  rw [hplace] at hwritten htemp
  obtain ⟨hcode, hpaves⟩ := ((hwritten s hs).2 text htext).1 hfails
  have htar : Invocation.ofArgs tarred [] ["generate", "-s", "a.tgz", "-o", "c.py"] =
      .ok (.generate { schema := "a.tgz", output := "c.py" }) := by
    decide +kernel
  have hhalts : (loadSchema { platform := halting } tarred ["a.tgz"] false).result =
      .error (.tarArchive "") := by
    rfl
  obtain ⟨-, hstops⟩ := run_preserves_tree "main" { platform := halting } (hproper halting) tarred
    (fresh_single halting (by decide) _) ["generate", "-s", "a.tgz", "-o", "c.py"] _ rfl
  obtain ⟨htarCode, htarTree⟩ := (hstops _ htar).1 _ hhalts
  refine ⟨hproper {}, ht, hcode, hpaves, Bool.eq_false_iff.2 fun hhas => ?_, htarCode, htarTree⟩
  exact absurd (htemp ["tmp"] List.prefix_rfl hhas) (by decide)

end Cli

end TypedQuery
