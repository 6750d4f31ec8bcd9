import TypedQuery.Archive.Pack
import TypedQuery.Cli.Run
import TypedQuery.Proofs.Cli.Loading
import TypedQuery.Proofs.Client.Validity
import TypedQuery.Proofs.Files.Refusing

/-!
# How runs of the program end

A run should end well, or with an error that it reports. It does so whatever it finds, apart from
some archives, from schemas whose module nests brackets too deep, and from schemas that the stack of
the platform is too small for. The last are those whose types are nested many hundreds of levels
deep, or that lie as deep in directories.

* `Outcome.Settled`: how a run should end.
* `Client.generateIn_default`, `Client.exists_generateIn_iff`: why a client is not written.
* `Cli.settled_check_iff`, `Cli.settled_generate_iff`: the commands.
* `Cli.Invocation.nullFree_output`: what the reader of arguments has made sure of.
* `Cli.run_settled_iff`: all runs.
-/

namespace TypedQuery

namespace Cli

/-! ## Reports -/

/-- The run ends as it should: well, or with exit code 1 and a line that names an error. -/
def Outcome.Settled (o : Outcome) : Prop :=
  o.escaped = none ∧ (o.exitCode = 0 ∨
    o.exitCode = 1 ∧ ∃ message, o.echoes.getLast? = some (.err ("Error: " ++ message)))

theorem CommandError.echoes_of_isReported {e : CommandError} (h : e.IsReported) :
    e.echoes = [.err ("Error: " ++ e.message)] := by
  rw [echoes, if_neg h.2, if_pos h.1]

theorem CommandError.echoes_aborted :
    CommandError.aborted.echoes = [.err "", .err "Aborted!"] := by
  rw [echoes, if_pos rfl]
  rfl

theorem settled_failed_iff {echoes : List Echo} {tree : FileTree} {e : CommandError} :
    (Outcome.ofReport (.failed echoes tree e)).Settled ↔ e.IsReported := by
  have hescaped : (Outcome.ofReport (.failed echoes tree e)).escaped =
      (some e).filter fun e => !e.isShown := rfl
  constructor
  · rintro ⟨hnone, hzero | ⟨-, message, hlast⟩⟩
    · cases hzero
    · constructor
      · rw [hescaped, Option.filter_some] at hnone
        simpa using hnone
      · rintro rfl
        have hlast : (echoes ++ CommandError.aborted.echoes).getLast? =
            some (.err ("Error: " ++ message)) := hlast
        rw [CommandError.echoes_aborted, List.getLast?_append] at hlast
        have := congrArg (·.toList.head?) (Echo.err.inj (Option.some.inj hlast))
        simp at this
  · intro h
    refine ⟨by rw [hescaped, Option.filter_some, h.1]; rfl, .inr ⟨rfl, e.message, ?_⟩⟩
    show (echoes ++ e.echoes).getLast? = _
    rw [CommandError.echoes_of_isReported h, List.getLast?_append]
    rfl

theorem settled_of_no_error {r : Report} (h : r.error = none) : (Outcome.ofReport r).Settled := by
  simp [Outcome.Settled, Outcome.ofReport, h]

end Cli

/-! ## Writing a client -/

/-- No decoder for a field of the schema nests brackets too deep. -/
def Schema.Shallow (s : Schema) : Prop :=
  ∀ o ∈ s.objects, ∀ g ∈ o.fields, 1 + g.type.nesting true ≤ 200

namespace Client

/-- A well-formed schema has a module unless it nests brackets too deep. -/
theorem render_default {s : Schema} (hw : s.WellFormed) :
    ∃ plan root, prepare s = .ok (plan, root) ∧
      (s.Shallow → ∃ text, render {} plan root = .ok text) ∧
      (¬ s.Shallow → render {} plan root = .error .invalid) := by
  obtain ⟨plan, hplan⟩ := Plan.exists_ofSchema hw
  obtain ⟨root, query, hprepare, -, hroot⟩ := Plan.exists_root hw hplan
  refine ⟨plan, root, hprepare, ?_⟩
  have hsound : ∀ l ∈ Layout.lines plan root (importClause ({} : Options).runtime),
      l.Sound (plan.types.flatMap TypePlan.fields) := by
    rw [importClause_default]
    exact Layout.sound_lines (Plan.spelled_of_ofSchema hw hplan) hroot.type _
  have hdeep : ¬ s.Shallow ↔ ∃ t ∈ plan.types, ∃ f ∈ t.fields, 200 < 1 + f.type.nesting true := by
    rw [← Plan.exists_type_iff hplan (P := fun r => 200 < 1 + r.nesting true)]
    simp [Schema.Shallow]
  have hvalid : Source.isValid (Layout.lines plan root (importClause ({} : Options).runtime)) =
      true ↔ s.Shallow := by
    rw [Source.isValid_iff_of_sound hsound (List.forall_mem_flatMap.2 fun t ht f hf =>
      Layout.accessorLine_mem_lines root _ ht hf), List.forall_mem_flatMap, ← not_iff_not, hdeep]
    simp [Layout.peak_accessorLine, Nesting.limit]
  constructor
  · intro h
    exact ⟨_, by rw [render, if_pos (hvalid.2 h)]⟩
  · intro h
    rw [render, if_neg (mt hvalid.1 h)]

/-- Without a template, a module is generated exactly as from the schema alone. -/
theorem generateIn_default (w : Workspace) (t : FileTree) {s : Schema} (hw : s.WellFormed) :
    (∃ text, generateIn w t s {} = .ok text) ↔ s.Shallow := by
  obtain ⟨plan, root, hprepare, hok, hinvalid⟩ := render_default hw
  have hdir : templateDirFault? w t ({} : WriteOptions).templateDir = none := by
    unfold templateDirFault?
    split <;> rfl
  have htemplate : findTemplate w t ({} : WriteOptions).templateDir = .ok none := rfl
  -- The equation of `generateIn` is not needed, and takes long to find.
  delta generateIn
  rw [hdir, hprepare]
  simp only [htemplate]
  by_cases h : s.Shallow
  · obtain ⟨text, htext⟩ := hok h
    rw [htext]
    exact iff_of_true ⟨text, rfl⟩ h
  · rw [hinvalid h]
    refine iff_of_false ?_ h
    rintro ⟨_, htext⟩
    cases htext

/-- An error of the generator has nothing to do with the output. -/
theorem ne_output_of_generateIn {w : Workspace} {t : FileTree} {s : Schema} {o : WriteOptions}
    {e : WriteError} (h : generateIn w t s o = .error e) (path : String) (why : FileError) :
    e ≠ .output path why := by
  rintro rfl
  delta generateIn at h
  split at h
  · cases h
  · cases h
  · split at h
    · cases h
    · split at h <;> cases h

theorem isRefusal_of_writeText {w : Workspace} {t : FileTree} {p : PathText} {text : String}
    (hp : NullFree p.text) (hparent : NullFree p.parent.text) {e : FileError}
    (h : (writeText w t p text).2 = some e) : e.isRefusal = true := by
  unfold writeText at h
  split at h
  · rename_i tree e' hdirs
    cases h
    have hmake : (t.makeDirs w.cwd p.parent).2 = some e := by rw [hdirs]
    exact FileTree.isRefusal_of_makeDirs hparent hmake
  · exact FileTree.isRefusal_of_write hp h

/-- A client is written, or an error about the output is reported, if its module can be
generated. -/
theorem exists_generateIn_iff {w : Workspace} {t : FileTree} {s : Schema} (o : WriteOptions)
    {p : PathText} (hp : NullFree p.text) (hparent : NullFree p.parent.text) :
    (∃ text, generateIn w t s o = .ok text) ↔
      ∀ e, (write w t s o p).error = some e → ∃ path why, e = .output path why := by
  delta write
  cases hgenerate : generateIn w t s o with
  | error e =>
    refine iff_of_false ?_ fun h => ?_
    · rintro ⟨_, htext⟩
      cases htext
    · obtain ⟨path, why, rfl⟩ := h e rfl
      exact ne_output_of_generateIn hgenerate path why rfl
  | ok text =>
    refine iff_of_true ⟨text, rfl⟩ fun e he => ?_
    dsimp only at he
    split at he
    · rename_i tree why hwrite
      have hfail : (writeText w t p text).2 = some why := by rw [hwrite]
      rw [if_pos (isRefusal_of_writeText hp hparent hfail)] at he
      cases he
      exact ⟨_, _, rfl⟩
    · cases he

end Client

/-! ## The commands -/

/-- No null byte stands in the names of the places that a program works in. -/
structure Workspace.NullFree (w : Workspace) : Prop where
  root : TypedQuery.NullFree w.root
  cwd : ∀ name ∈ w.cwd, TypedQuery.NullFree name

/-- The place that a text among the arguments stands for. -/
def Workspace.place (w : Workspace) (path : String) : Place := (PathText.ofText path).resolve w.cwd

theorem Workspace.NullFree.path {w : Workspace} (hw : w.NullFree) {output : String}
    (h : TypedQuery.NullFree output) : TypedQuery.NullFree (w.path (w.place output)).text ∧
      TypedQuery.NullFree (w.path (w.place output)).parent.text := by
  have htop : ∀ top, some w.root = some top → TypedQuery.NullFree top := by
    rintro _ ⟨⟩
    exact hw.root
  have hplace := PathText.nullFree_resolve hw.cwd (PathText.nullFree_parts h)
  exact ⟨PathText.nullFree_text htop hplace,
    PathText.nullFree_text htop fun part hpart => hplace part (List.dropLast_subset _ hpart)⟩

namespace Cli

variable {w : Workspace} {t : FileTree}

theorem settled_check_iff (schema : String) (verbose : Bool) :
    (Outcome.ofReport (check w t schema verbose)).Settled ↔
      ¬ LoadEscapes w t (w.place schema) := by
  rw [loadEscapes_iff verbose, check, ← Workspace.place]
  cases hload : (loadSchema w t (w.place schema) verbose).result with
  | error e => simp [settled_failed_iff]
  | ok s =>
    refine iff_of_true (settled_of_no_error (by simp)) ?_
    rintro ⟨e, he, -⟩
    cases he

theorem isReported_write_iff {e : Client.WriteError} :
    (CommandError.write e).IsReported ↔ ∃ path why, e = .output path why := by
  cases e <;> simp [CommandError.IsReported, CommandError.isShown]

theorem settled_generate_iff (hw : w.NullFree) {schema output : String} (ho : NullFree output)
    (o : Client.WriteOptions) (verbose : Bool) :
    (Outcome.ofReport (generate w t schema output o verbose)).Settled ↔
      ¬ LoadEscapes w t (w.place schema) ∧
        ∀ s, (loadSchema w t (w.place schema) verbose).result = .ok s →
          ∃ text, Client.generateIn w (loadSchema w t (w.place schema) verbose).tree s o =
            .ok text := by
  rw [loadEscapes_iff verbose, generate, ← Workspace.place, ← Workspace.place]
  cases hload : (loadSchema w t (w.place schema) verbose).result with
  | error e => simp [settled_failed_iff]
  | ok s =>
    obtain ⟨hpath, hparent⟩ := hw.path ho
    have hwrite := Client.exists_generateIn_iff (w := w)
      (t := (loadSchema w t (w.place schema) verbose).tree) (s := s) o hpath hparent
    simp only [Except.ok.injEq, reduceCtorEq, false_and, exists_false, not_false_eq_true, true_and,
      forall_eq']
    rw [hwrite]
    split
    · rename_i e herror
      rw [settled_failed_iff, isReported_write_iff, herror]
      simp
    · rename_i herror
      rw [herror]
      exact iff_of_true (settled_of_no_error rfl) (by simp)

/-! ## Arguments -/

theorem find?_key_eq_some {specs : List OptionSpec} (hn : (specs.map OptionSpec.key).Nodup)
    {o : OptionSpec} (h : o ∈ specs) : (specs.find? fun s => s.key == o.key) = some o := by
  induction specs with
  | nil => cases h
  | cons s specs ih =>
    obtain ⟨hs, hn⟩ := List.nodup_cons.1 hn
    rcases List.mem_cons.1 h with rfl | h
    · exact List.find?_cons_of_pos (beq_self_eq_true _)
    · have hne : s.key ≠ o.key := fun heq => hs (heq ▸ List.mem_map_of_mem h)
      rw [List.find?_cons_of_neg (by simpa using hne)]
      exact ih hn h

/-- Every option of a command is looked at. -/
theorem Arguments.mem_order (a : Arguments) {specs : List OptionSpec}
    (hn : (specs.map OptionSpec.key).Nodup) {o : OptionSpec} (h : o ∈ specs) :
    o ∈ a.order specs := by
  simp only [order, List.mem_append, List.mem_filterMap, List.mem_filter]
  by_cases hgiven : o.key ∈ (a.options.map Occurrence.key).eraseDups
  · exact .inl ⟨o.key, hgiven, find?_key_eq_some hn h⟩
  · refine .inr ⟨h, ?_⟩
    simpa using hgiven

theorem shown?_ne_generate {a : Arguments} {g : GenerateArguments} :
    shown? a ≠ some (.generate g) := by
  intro h
  obtain ⟨o, -, ho⟩ := List.exists_of_findSome?_eq_some h
  split at ho <;> cases ho

theorem refuseCommand_ne_generate {name : String} {args : List String} {g : GenerateArguments} :
    refuseCommand name args ≠ .ok (.generate g) := by
  intro h
  unfold refuseCommand at h
  dsimp only at h
  split at h
  · cases h
  · split at h
    · rename_i i hshown
      cases h
      exact shown?_ne_generate hshown
    · cases h

/-- What `generate` is asked to do stands behind its name. -/
theorem Invocation.exists_read {args : List String} {g : GenerateArguments}
    (h : ofArgs t w.cwd args = .ok (.generate g)) :
    ∃ c more, Command.read t w.cwd c more = .ok (.generate g) := by
  unfold ofArgs at h
  dsimp only at h
  split at h
  · cases h
  · split at h
    · cases h
    · split at h
      · rename_i i hshown
        cases h
        exact absurd hshown shown?_ne_generate
      · cases h
      · split at h
        · exact absurd (mapError_eq_ok.1 h) refuseCommand_ne_generate
        · exact ⟨_, _, mapError_eq_ok.1 h⟩

theorem nullFree_of_commandFault? {a : Arguments}
    (h : commandFault? t w.cwd .generate a = none) : NullFree ((a.value? .output).getD "") := by
  have hnone : ∀ o ∈ a.order Command.generate.options, optionFault? t w.cwd a o = none := by
    unfold commandFault? at h
    split at h
    · cases h
    · rename_i hfind
      exact List.findSome?_eq_none_iff.1 hfind
  have houtput := hnone outputOption (a.mem_order (by decide) (by decide))
  unfold optionFault? at houtput
  split at houtput
  · rename_i v hv
    have hv : a.value? .output = some v := hv
    rw [hv, Option.getD_some]
    refine FileTree.nullFree_of_textFault? fun hnull => ?_
    have hlocate : t.locate w.cwd v = .error .nullByte := by
      rw [FileTree.locate, hnull]
    have hpath : pathFault? t w.cwd .output v = some .nullByte := by
      simp only [pathFault?, hlocate]
    rw [show outputOption.key = .output from rfl, hpath] at houtput
    cases houtput
  · cases houtput

/-- A path that is written to has no null byte in it. -/
theorem Invocation.nullFree_output {args : List String} {g : GenerateArguments}
    (h : ofArgs t w.cwd args = .ok (.generate g)) : NullFree g.output := by
  obtain ⟨c, more, h⟩ := exists_read h
  unfold Command.read at h
  split at h
  · cases h
  · rename_i a _
    split at h
    · cases h
    · split at h
      · cases h
      · rename_i hfault
        cases c with
        | check => cases h
        | generate =>
          cases h
          exact nullFree_of_commandFault? hfault

/-! ## Runs of the program -/

/-- **How a run ends.** Take any platform, any file tree, and any arguments that ask for `check` or
`generate`. The run ends well, or with exit code 1 and a line that names an error, unless the stack
is too small for the schema, the schema is an archive that escapes or, for `generate`, no module can
be generated; and then it does not. So neither a file that cannot be read, a text that is no schema,
an archive that is none, nor an output that cannot be written ends a run in any other way. Without a
template or a runtime module of the user's own, no module can be generated exactly if the schema has
a field whose decoder nests brackets too deep. A tar archive escapes if its extraction stops for
another reason than a refusal. On a platform without filters, that is an archive that can be opened
or that ends too early. On one with filters, it is an archive that ends too early, or one that can
be opened, is not made of files and directories alone, and stops the platform so. -/
theorem run_settled_iff (program : String) {w : Workspace} (hw : w.NullFree) (t : FileTree)
    (args : List String) :
    (∀ schema verbose, Invocation.ofArgs t w.cwd args = .ok (.check schema verbose) →
      ((run program w t args).Settled ↔ ¬ LoadEscapes w t (w.place schema))) ∧
    (∀ g, Invocation.ofArgs t w.cwd args = .ok (.generate g) →
      ((run program w t args).Settled ↔ ¬ LoadEscapes w t (w.place g.schema) ∧
        ∀ s, (loadSchema w t (w.place g.schema) g.verbose).result = .ok s →
          ∃ text, Client.generateIn w (loadSchema w t (w.place g.schema) g.verbose).tree s
            g.options = .ok text) ∧
      (g.templateDir = none → g.runtime = none →
        ∀ s, (loadSchema w t (w.place g.schema) g.verbose).result = .ok s →
          ((∃ text, Client.generateIn w (loadSchema w t (w.place g.schema) g.verbose).tree s
            g.options = .ok text) ↔ s.Shallow))) ∧
    ∀ schema name c, (w.place schema).getLast? = some name → t.file? (w.place schema) = some c →
      IsTar name →
        (w.platform.untar = Archive.Tar.unfiltered → (ArchiveEscapes w t (w.place schema) ↔
          Archive.Tar.probe c = none ∨ Archive.Tar.probe c = some .streamEnds)) ∧
        ∀ other, w.platform.untar = Archive.Tar.filtered other →
          (ArchiveEscapes w t (w.place schema) ↔ Archive.Tar.probe c = some .streamEnds ∨
            (Archive.Tar.probe c = none ∧ Archive.Tar.plain? c = none ∧
              ∃ stop, (other c).stop = some stop ∧ stop.isRefusal = false)) := by
  refine ⟨fun schema verbose hargs => ?_, fun g hargs => ⟨?_, fun hdir hruntime s hs => ?_⟩,
    fun schema name c hname hfile htar => ?_⟩
  · rw [run, hargs]
    exact settled_check_iff schema verbose
  · rw [run, hargs]
    exact settled_generate_iff hw (Invocation.nullFree_output hargs) g.options g.verbose
  · have hoptions : g.options = {} := by
      rw [GenerateArguments.options, hdir, hruntime]
      rfl
    rw [hoptions]
    exact Client.generateIn_default w _ (wellFormed_of_loadSchema hs)
  · rw [archiveEscapes_iff_of_isTar hname hfile htar]
    refine ⟨fun hplatform => ?_, fun other hplatform => ?_⟩
    · rw [hplatform, Archive.Tar.stops_unfiltered_iff]
    · rw [hplatform, Archive.Tar.stops_filtered_iff]

/-- An archive with a schema, under some name. -/
def archived (name : String) : FileTree :=
  { files := [([name], Archive.pack [("s.graphql", Utf8.encode "type Query \x7b a: Int \x7d")])] }

/-- The same archive is read under one name, and ends the run under another with an error that is
not reported: its ending is known as one of archives, and then not known in capital letters. -/
theorem run_capital_zip :
    (run "main" {} (archived "a.zip") ["check", "--schema", "a.zip"]).exitCode = 0 ∧
      (run "main" {} (archived "a.ZIP") ["check", "--schema", "a.ZIP"]).escaped =
        some (.unsupportedArchive ".ZIP") := by
  constructor <;> decide +kernel

/-- A file that is no archive in spite of its name. -/
def misnamed : FileTree := { files := [(["a.zip"], [1, 2, 3])] }

/-- A file with a schema. -/
def plain : FileTree :=
  { files := [(["q.graphql"], Utf8.encode "type Query \x7b q: [[Query!]] \x7d")] }

/-- The only file of a tar archive. -/
def tarFile : Archive.Tar.Step × Content :=
  (⟨"s.graphql", by decide⟩, Utf8.encode "type Query \x7b a: Int \x7d")

/-- A tar archive with a schema. -/
def tarred : FileTree := { files := [(["a.tgz"], Archive.Tar.pack [tarFile])] }

theorem fits_tarFile : ∀ f ∈ [tarFile], Archive.Tar.Fits f :=
  List.forall_mem_singleton.2 ⟨by decide +kernel, by decide +kernel, by decide +kernel,
    by decide +kernel⟩

theorem isTar_tgz : IsTar "a.tgz" := endsWithAny_tar_iff.1 (by decide)

/-- The archive is extracted and its schema is read. -/
theorem exitCode_tarred : (run "main" {} tarred ["check", "-s", "a.tgz"]).exitCode = 0 := by
  have hextract : extractArchive {} tarred ["a.tgz"] "a.tgz" (Archive.Tar.pack [tarFile]) = _ :=
    extractArchive_pack rfl isTar_tgz fits_tarFile
  have hfile : tarred.file? ["a.tgz"] = some (Archive.Tar.pack [tarFile]) := rfl
  have harchive : isArchiveName "a.tgz" = true := by decide
  have hload : (loadSchema {} tarred ["a.tgz"] false).result.toOption.isSome = true := by
    simp only [loadSchema, hfile, List.getLast?_singleton, Option.getD_some, harchive, hextract]
    decide +kernel
  obtain ⟨s, hs⟩ := Option.isSome_iff_exists.1 hload
  have hargs : Invocation.ofArgs tarred [] ["check", "-s", "a.tgz"] =
      .ok (.check "a.tgz" false) := by
    decide +kernel
  have hcheck : (check {} tarred "a.tgz" false).error = none := by
    rw [check, show (PathText.ofText "a.tgz").resolve ({} : Workspace).cwd = ["a.tgz"] by decide,
      toOption_eq_some.1 hs]
  rw [run, hargs]
  show (if (check {} tarred "a.tgz" false).error.isSome then 1 else 0) = 0
  rw [hcheck]
  rfl

/-- Runs on them: one ends with an error that is reported, the others end well, except that the tar
archive escapes from a platform without filters. -/
theorem run_settled_misnamed_plain_tarred :
    (run "main" {} misnamed ["check", "-s", "a.zip"]).Settled ∧
      (run "main" {} plain ["generate", "-s", "q.graphql", "-o", "out/client.py"]).Settled ∧
      (run "main" {} tarred ["check", "-s", "a.tgz"]).Settled ∧
      (run "main" {} tarred ["check", "-s", "a.tgz"]).exitCode = 0 ∧
      ¬ (run "main" { platform.untar := Archive.Tar.unfiltered } tarred
        ["check", "-s", "a.tgz"]).Settled := by
  have hroot : NullFree "/" := by decide
  have hw (platform : Platform) : ({ platform } : Workspace).NullFree := ⟨hroot, by simp⟩
  have hstack (t : FileTree) (p : Place) (h : ¬ ArchiveEscapes {} t p) : ¬ LoadEscapes {} t p :=
    not_or.2 ⟨Bool.false_ne_true, h⟩
  refine ⟨?_, ?_, ?_, exitCode_tarred, ?_⟩
  · refine ((run_settled_iff "main" (hw {}) _ _).1 "a.zip" false (by decide +kernel)).2
      (hstack _ _ ?_)
    have hextract : (extractArchive {} misnamed ["a.zip"] "a.zip" [1, 2, 3]).2 =
        some (.unreadable "/a.zip" (.zip .notZip)) := by
      decide +kernel
    have hfile : misnamed.file? ["a.zip"] = some [1, 2, 3] := rfl
    have hname : ["a.zip"].getLast? = some "a.zip" := rfl
    rw [show ({} : Workspace).place "a.zip" = ["a.zip"] by decide,
      archiveEscapes_iff_of_file hname hfile (by decide), hextract]
    rintro ⟨e, he, hreported⟩
    cases he
    exact hreported ⟨rfl, nofun⟩
  · obtain ⟨hsettled, hdefault⟩ := (run_settled_iff "main" (hw {}) plain
      ["generate", "-s", "q.graphql", "-o", "out/client.py"]).2.1
      { schema := "q.graphql", output := "out/client.py" } (by decide +kernel)
    refine hsettled.2 ⟨hstack _ _ ?_, fun s hs => (hdefault rfl rfl s hs).2 fun o ho g hg => ?_⟩
    · rw [show ({} : Workspace).place "q.graphql" = ["q.graphql"] by decide]
      rintro ⟨name, c, hname, -, harchive, -⟩
      cases hname
      exact absurd harchive (by decide)
    · have hall : ((loadSchema {} plain (({} : Workspace).place "q.graphql")
          false).result.toOption.all fun s => s.objects.all fun o => o.fields.all fun g =>
            1 + g.type.nesting true ≤ 200) = true := by
        decide +kernel
      rw [show (loadSchema {} plain (({} : Workspace).place "q.graphql") false).result = _ from hs]
        at hall
      simp only [Except.toOption, Option.all_some, List.all_eq_true, decide_eq_true_eq] at hall
      exact hall o ho g hg
  · refine ((run_settled_iff "main" (hw {}) _ _).1 "a.tgz" false (by decide +kernel)).2
      (hstack _ _ ?_)
    rw [((run_settled_iff "main" (hw {}) tarred []).2.2 "a.tgz" "a.tgz" _ (by decide) rfl
      isTar_tgz).2 _ rfl]
    simp [Archive.Tar.probe_pack fits_tarFile, Archive.Tar.plain?_pack fits_tarFile]
  · rw [(run_settled_iff "main" (hw _) _ _).1 "a.tgz" false (by decide +kernel),
      Classical.not_not]
    refine .inr (((run_settled_iff "main" (hw _) tarred []).2.2 "a.tgz" "a.tgz" _ (by decide) rfl
      isTar_tgz).1 rfl |>.2 (.inl ?_))
    exact Archive.Tar.probe_pack fits_tarFile

end Cli

end TypedQuery
