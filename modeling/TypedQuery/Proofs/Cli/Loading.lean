import TypedQuery.Cli.Command
import TypedQuery.Proofs.Archive.Packing
import TypedQuery.Proofs.Schema.WellFormed

/-!
# Loading schemas

A command reads its schema from a file, from a directory, or from an archive that is extracted
first. What it reads is well formed. An error on the way is reported, unless it is one of an
archive or the platform has too little stack.

* `SchemaFiles.wellFormed_of_parse`, `Cli.wellFormed_of_loadSchema`: what is read is well formed.
* `Archive.Tar.stops_unfiltered_iff`, `Archive.Tar.stops_filtered_iff`: what stops the extraction of
  tar archives.
* `Cli.EscapesFrom`, `Cli.escapesFrom_iff`: the archives whose errors are not reported.
* `Cli.loadSchema_cases`: what loading a schema can do.
* `Cli.loadEscapes_iff`: when an error of loading a schema is not reported.
-/

namespace TypedQuery

/-! ## Reading schemas -/

namespace SchemaFiles

theorem sound_addFile {t : FileTree} {cwd : Place} {run : Run} (path : String)
    (h : run.collector.Sound) : (addFile t cwd run path).collector.Sound := by
  unfold addFile
  split
  · exact h
  · split
    · exact h
    · rename_i text _
      exact Collector.sound_addSource path text h

theorem sound_addFiles {t : FileTree} {cwd : Place} {run : Run} (paths : List String)
    (h : run.collector.Sound) : (addFiles t cwd run paths).collector.Sound := by
  induction paths generalizing run with
  | nil => exact h
  | cons path paths ih =>
    rw [addFiles]
    split
    · exact sound_addFile path h
    · exact ih (sound_addFile path h)

/-- What is read from files is well formed. -/
theorem wellFormed_of_parse {t : FileTree} {cwd : Place} {path : String} {s : Schema}
    (h : (parse t cwd path).2 = .ok s) : s.WellFormed := by
  unfold parse at h
  split at h
  · cases h
  · rename_i paths _
    unfold build at h
    split at h
    · cases h
    · split at h
      · cases h
      · rename_i s' hbuild
        cases h
        exact Collector.wellFormed_of_build (sound_addFiles paths Collector.sound_empty) hbuild

end SchemaFiles

/-! ## Tar archives -/

namespace Archive.Tar

variable {c : Content}

/-- A platform without filters stops silently at an archive that can be opened or that ends too
early. -/
theorem stops_unfiltered_iff : (∃ stop, (unfiltered c).stop = some stop ∧ stop.isRefusal = false) ↔
    probe c = none ∨ probe c = some .streamEnds := by
  unfold unfiltered
  cases hprobe : probe c with
  | none => simp [Stop.isRefusal]
  | some why => cases why <;> simp [Stop.isRefusal]

/-- A platform with filters stops silently at an archive that ends too early, and perhaps at one
that can be opened and holds something else than files and directories. -/
theorem stops_filtered_iff {other : Extractor} :
    (∃ stop, (filtered other c).stop = some stop ∧ stop.isRefusal = false) ↔
      probe c = some .streamEnds ∨ (probe c = none ∧ plain? c = none ∧
        ∃ stop, (other c).stop = some stop ∧ stop.isRefusal = false) := by
  unfold filtered
  cases hprobe : probe c with
  | some why => cases why <;> simp [Stop.isRefusal]
  | none =>
    cases hplain : plain? c with
    | some made => simp
    | none => simp

end Archive.Tar

namespace Cli

/-! ## Names of archives -/

/-- The name ends with `.zip`, and something stands before that. -/
def IsZip (name : String) : Prop := name ≠ ".zip" ∧ ".zip".toList <:+ name.toList

/-- The name ends with `.tar.gz` or `.tgz`. -/
def IsTar (name : String) : Prop :=
  ".tar.gz".toList <:+ name.toList ∨ ".tgz".toList <:+ name.toList

theorem endsWithAny_tar_iff {name : String} :
    endsWithAny [".tar.gz", ".tgz"] name.toList = true ↔ IsTar name := by
  simp [endsWithAny, IsTar]

/-- What stands behind the last dot, if there is one. -/
theorem reverse_takeWhile_eq_iff {cs ending : List Char} (hdot : '.' ∉ ending)
    (hlong : ending.length < cs.length) :
    (cs.reverse.takeWhile (· != '.')).reverse = ending ↔
      ∃ before, before ++ '.' :: ending = cs := by
  constructor
  · rintro rfl
    have hsplit := List.takeWhile_append_dropWhile (p := (· != '.')) (l := cs.reverse)
    cases hrest : cs.reverse.dropWhile (· != '.') with
    | nil =>
      have hall := congrArg List.length hsplit
      simp only [hrest, List.append_nil, List.length_reverse] at hall hlong
      omega
    | cons c rest =>
      have hstop := List.head?_dropWhile_not (· != '.') cs.reverse
      have hc : c = '.' := by simpa [hrest] using hstop
      rw [hrest, hc] at hsplit
      exact ⟨rest.reverse, by simpa using congrArg List.reverse hsplit⟩
  · rintro ⟨before, rfl⟩
    have hpass : ∀ c ∈ ending.reverse, (c != '.') = true := by
      intro c hc
      rw [bne_iff_ne]
      rintro rfl
      exact hdot (List.mem_reverse.1 hc)
    simp [List.takeWhile_append_of_pos hpass]

theorem suffixOf_eq_zip_iff {name : String} : suffixOf name = ".zip" ↔ IsZip name := by
  have hlength : name.length = name.toList.length := String.length_toList.symm
  constructor
  · intro h
    simp only [suffixOf] at h
    split at h
    · exact absurd h (by decide)
    · rename_i hlong
      have hending : (name.toList.reverse.takeWhile (· != '.')).reverse = ['z', 'i', 'p'] := by
        simpa using congrArg String.toList h
      rw [hending, hlength] at hlong
      obtain ⟨before, hname⟩ := (reverse_takeWhile_eq_iff (by decide) (by simp at hlong ⊢; omega)).1
        hending
      refine ⟨?_, before, hname⟩
      rintro rfl
      exact absurd hlong (by decide)
  · rintro ⟨hne, before, hname⟩
    have hpos : before ≠ [] := by
      rintro rfl
      exact hne (String.ext hname.symm)
    have hlong : 4 < name.toList.length := by
      rw [← hname, List.length_append]
      exact Nat.lt_add_of_pos_left (List.length_pos_iff.2 hpos)
    have hending : (name.toList.reverse.takeWhile (· != '.')).reverse = ['z', 'i', 'p'] :=
      (reverse_takeWhile_eq_iff (by decide) (by simp; omega)).2 ⟨before, hname⟩
    simp only [suffixOf, hending, hlength]
    rw [if_neg (by simp; omega)]
    rfl

theorem IsTar.not_isZip {name : String} (h : IsTar name) : ¬ IsZip name := by
  rintro ⟨-, before, hbefore⟩
  rcases h with ⟨other, hother⟩ | ⟨other, hother⟩
  all_goals
    have hlast := congrArg List.getLast? (hbefore.trans hother.symm)
    simp at hlast

theorem isArchiveName_of_isTar {name : String} (h : IsTar name) : isArchiveName name = true := by
  have hlower (ending : String) (hsmall : ending.toList.map Char.toLower = ending.toList)
      (hends : ending.toList <:+ name.toList) : ending.toList <:+ name.toList.map Char.toLower := by
    rw [← hsmall]
    exact hends.map Char.toLower
  simp only [isArchiveName, endsWithAny, archiveEndings, List.any_eq_true, List.mem_cons,
    List.isSuffixOf_iff_suffix]
  rcases h with h | h
  · exact ⟨".tar.gz", by simp, hlower ".tar.gz" (by decide) h⟩
  · exact ⟨".tgz", by simp, hlower ".tgz" (by decide) h⟩

/-! ## Archives -/

/-- The error is reported in a line of its own. -/
def CommandError.IsReported (e : CommandError) : Prop := e.isShown = true ∧ e ≠ .aborted

/-- What an archive of this name and content does to a command without a report: its ending is not
spelled in small letters, it is a zip archive with a fault that is not one of archives, or it is a
tar archive whose extraction stops for another reason than a refusal. -/
inductive EscapesFrom (w : Workspace) (t : FileTree) (name : String) (c : Content) : Prop where
  | unsupported (zip : ¬ IsZip name) (tar : ¬ IsTar name)
  | unlisted (zip : IsZip name) (why : Archive.ZipFault) (members : Archive.members c = .error why)
    (silent : why.isBadArchive = false)
  | unpacked (zip : IsZip name) (ms : List Archive.Member) (why : Archive.ZipFault)
    (members : Archive.members c = .ok ms)
    (stops : ((t.addDir w.temp).extract (w.path w.temp) ms).2 = some (.archive why))
    (silent : why.isBadArchive = false)
  | tar (tar : IsTar name)
    (stops : ∃ stop, (w.platform.untar c).stop = some stop ∧ stop.isRefusal = false)

/-- The file at `p` is an archive by its name, and does so. -/
def ArchiveEscapes (w : Workspace) (t : FileTree) (p : Place) : Prop :=
  ∃ name c, p.getLast? = some name ∧ t.file? p = some c ∧ isArchiveName name = true ∧
    EscapesFrom w t name c

theorem CommandError.isReported_ofZip {path : String} {why : Archive.ZipFault} :
    (ofZip path why).IsReported ↔ why.isBadArchive = true := by
  unfold ofZip
  split
  · rename_i hbad
    simp [IsReported, isShown, hbad]
  · rename_i hbad
    split <;> simp [IsReported, isShown, hbad]

theorem CommandError.isReported_ofTar {path : String} {stop : Archive.Tar.Stop} :
    (ofTar path stop).IsReported ↔ stop.isRefusal = true := by
  unfold ofTar
  split <;> simp_all [IsReported, isShown, Archive.Tar.Stop.isRefusal]

section

variable {w : Workspace} {t : FileTree} {p : Place} {name : String} {c : Content}

theorem extractArchive_error : (extractArchive w t p name c).2 =
    (unpack w (t.addDir w.temp) (w.path p).text name c).2 := by
  unfold extractArchive
  split
  · rename_i hunpack
    rw [hunpack]
  · rename_i hunpack
    rw [hunpack]

/-- What becomes of a zip archive. -/
theorem extractArchive_of_isZip (h : IsZip name) :
    (∀ why, Archive.members c = .error why →
      (extractArchive w t p name c).2 = some (.ofZip (w.path p).text why)) ∧
    ∀ ms, Archive.members c = .ok ms → (extractArchive w t p name c).2 =
      ((t.addDir w.temp).extract (w.path w.temp) ms).2.map (.ofExtract (w.path p).text) := by
  rw [extractArchive_error, unpack, if_pos (suffixOf_eq_zip_iff.2 h)]
  constructor
  · intro why hwhy
    rw [hwhy]
  · intro ms hms
    rw [hms]
    rfl

/-- What becomes of a tar archive. -/
theorem extractArchive_of_isTar (h : IsTar name) : (extractArchive w t p name c).2 =
    (w.platform.untar c).stop.map (.ofTar (w.path p).text) := by
  rw [extractArchive_error, unpack, if_neg (mt suffixOf_eq_zip_iff.1 h.not_isZip),
    if_pos (endsWithAny_tar_iff.2 h)]

/-- A tar archive of files becomes these files, on a platform with filters. -/
theorem extractArchive_pack {other : Archive.Tar.Extractor}
    (hw : w.platform.untar = Archive.Tar.filtered other) (h : IsTar name)
    {files : List (Archive.Tar.Step × Content)} (hfiles : ∀ f ∈ files, Archive.Tar.Fits f) :
    extractArchive w t p name (Archive.Tar.pack files) =
      (files.foldl (fun t f => t.put (w.temp ++ [f.1.val]) f.2) (t.addDir w.temp), none) := by
  have hmade : (files.map fun f => Archive.Tar.Entry.file [] f.1 f.2).foldl
      (FileTree.addEntry w.temp) (t.addDir w.temp) =
        files.foldl (fun t f => t.put (w.temp ++ [f.1.val]) f.2) (t.addDir w.temp) := by
    simp [List.foldl_map, FileTree.addEntry, FileTree.addWay]
  rw [extractArchive, unpack, if_neg (mt suffixOf_eq_zip_iff.1 h.not_isZip),
    if_pos (endsWithAny_tar_iff.2 h), hw, Archive.Tar.filtered_pack hfiles]
  simp only [hmade, Option.map_none]

/-- What becomes of any other file. -/
theorem extractArchive_of_unsupported (hzip : ¬ IsZip name) (htar : ¬ IsTar name) :
    (extractArchive w t p name c).2 = some (.unsupportedArchive (suffixOf name)) := by
  rw [extractArchive_error, unpack, if_neg (mt suffixOf_eq_zip_iff.1 hzip),
    if_neg (mt endsWithAny_tar_iff.1 htar)]

/-- An archive that cannot be extracted is reported unless it escapes. -/
theorem escapesFrom_iff (p : Place) : EscapesFrom w t name c ↔
    ∃ e, (extractArchive w t p name c).2 = some e ∧ ¬ e.IsReported := by
  constructor
  · rintro (⟨hzip, htar⟩ | ⟨hzip, why, hmembers, hsilent⟩ |
      ⟨hzip, ms, why, hmembers, hstops, hsilent⟩ | ⟨htar, stop, hstop, hsilent⟩)
    · refine ⟨_, extractArchive_of_unsupported hzip htar, ?_⟩
      simp [CommandError.IsReported, CommandError.isShown]
    · refine ⟨_, (extractArchive_of_isZip hzip).1 why hmembers, ?_⟩
      simp [CommandError.isReported_ofZip, hsilent]
    · refine ⟨.ofZip (w.path p).text why, ?_, by simp [CommandError.isReported_ofZip, hsilent]⟩
      rw [(extractArchive_of_isZip hzip).2 ms hmembers, hstops]
      rfl
    · refine ⟨.ofTar (w.path p).text stop, ?_, by simp [CommandError.isReported_ofTar, hsilent]⟩
      rw [extractArchive_of_isTar htar, hstop]
      rfl
  · rintro ⟨e, he, hreported⟩
    by_cases hzip : IsZip name
    · cases hmembers : Archive.members c with
      | error why =>
        rw [(extractArchive_of_isZip hzip).1 why hmembers] at he
        cases he
        rw [CommandError.isReported_ofZip, Bool.not_eq_true] at hreported
        exact .unlisted hzip why hmembers hreported
      | ok ms =>
        rw [(extractArchive_of_isZip hzip).2 ms hmembers] at he
        obtain ⟨x, hx, rfl⟩ := Option.map_eq_some_iff.1 he
        cases x with
        | file e => exact absurd ⟨rfl, nofun⟩ hreported
        | archive why =>
          rw [CommandError.ofExtract, CommandError.isReported_ofZip, Bool.not_eq_true] at hreported
          exact .unpacked hzip ms why hmembers hx hreported
    · by_cases htar : IsTar name
      · rw [extractArchive_of_isTar htar] at he
        obtain ⟨stop, hstop, rfl⟩ := Option.map_eq_some_iff.1 he
        rw [CommandError.isReported_ofTar, Bool.not_eq_true] at hreported
        exact .tar htar ⟨stop, hstop, hreported⟩
      · exact .unsupported hzip htar

theorem archiveEscapes_iff_escapesFrom (hname : p.getLast? = some name)
    (hfile : t.file? p = some c) (harchive : isArchiveName name = true) :
    ArchiveEscapes w t p ↔ EscapesFrom w t name c := by
  constructor
  · rintro ⟨_, _, hsame, hc, -, h⟩
    rw [hname] at hsame
    rw [hfile] at hc
    cases hsame
    cases hc
    exact h
  · exact fun h => ⟨name, c, hname, hfile, harchive, h⟩

theorem archiveEscapes_iff_of_file (hname : p.getLast? = some name) (hfile : t.file? p = some c)
    (harchive : isArchiveName name = true) :
    ArchiveEscapes w t p ↔ ∃ e, (extractArchive w t p name c).2 = some e ∧ ¬ e.IsReported :=
  (archiveEscapes_iff_escapesFrom hname hfile harchive).trans (escapesFrom_iff p)

/-- A tar archive escapes if its extraction stops silently. -/
theorem archiveEscapes_iff_of_isTar (hname : p.getLast? = some name) (hfile : t.file? p = some c)
    (htar : IsTar name) : ArchiveEscapes w t p ↔
      ∃ stop, (w.platform.untar c).stop = some stop ∧ stop.isRefusal = false := by
  rw [archiveEscapes_iff_escapesFrom hname hfile (isArchiveName_of_isTar htar)]
  constructor
  · intro h
    cases h with
    | unsupported _ hnot => exact absurd htar hnot
    | unlisted hzip => exact absurd hzip htar.not_isZip
    | unpacked hzip => exact absurd hzip htar.not_isZip
    | tar _ hstops => exact hstops
  · exact .tar htar

/-! ## Loading a schema -/

theorem wellFormed_of_parseSchema {path : String} {verbose : Bool} {s : Schema}
    (h : (parseSchema w t path p verbose).result = .ok s) : s.WellFormed :=
  SchemaFiles.wellFormed_of_parse (mapError_eq_ok.1 h)

theorem isReported_of_parseSchema {path : String} {verbose : Bool} {e : CommandError}
    (h : (parseSchema w t path p verbose).result = .error e) : e.IsReported := by
  unfold parseSchema at h
  cases hparse : (SchemaFiles.parse t [] (w.path p).text).2 with
  | ok s =>
    simp only [hparse] at h
    cases h
  | error why =>
    simp only [hparse] at h
    cases why <;> cases h <;> exact ⟨rfl, nofun⟩

/-- Loading ends for lack of stack, with the error of an archive, or with what is read from some
place. -/
theorem loadSchema_cases (verbose : Bool) :
    (w.platform.isExhausted t p = true ∧ (loadSchema w t p verbose).result = .error .exhausted) ∨
    (w.platform.isExhausted t p = false ∧
      ∃ name c e, p.getLast? = some name ∧ t.file? p = some c ∧ isArchiveName name = true ∧
        (extractArchive w t p name c).2 = some e ∧
        (loadSchema w t p verbose).result = .error e) ∨
    (w.platform.isExhausted t p = false ∧ ¬ ArchiveEscapes w t p ∧ ∃ tree path source,
      (loadSchema w t p verbose).result = (parseSchema w tree path source verbose).result) := by
  cases hstack : w.platform.isExhausted t p with
  | true => exact .inl ⟨rfl, by simp [loadSchema, hstack]⟩
  | false =>
    right
    cases hfile : t.file? p with
    | none =>
      refine .inr ⟨rfl, ?_, t, (w.path p).text, p, by simp [loadSchema, hstack, hfile]⟩
      rintro ⟨_, _, -, hsome, -⟩
      rw [hfile] at hsome
      cases hsome
    | some c =>
      cases harchive : isArchiveName (p.getLast?.getD "") with
      | false =>
        refine .inr ⟨rfl, ?_, t, (w.path p).text, p, by simp [loadSchema, hstack, hfile, harchive]⟩
        rintro ⟨name, _, hname, -, hyes, -⟩
        rw [hname, Option.getD_some, hyes] at harchive
        cases harchive
      | true =>
        cases hname : p.getLast? with
        | none =>
          rw [hname] at harchive
          exact absurd harchive (by decide)
        | some name =>
          rw [hname, Option.getD_some] at harchive
          cases hextract : extractArchive w t p name c with
          | mk tree error =>
            cases error with
            | some e =>
              refine .inl ⟨rfl, name, c, e, rfl, rfl, harchive, by rw [hextract], ?_⟩
              simp [loadSchema, hstack, hfile, hname, harchive, hextract]
            | none =>
              refine .inr ⟨rfl, ?_, tree, (w.path p).text, w.temp, ?_⟩
              · rw [archiveEscapes_iff_of_file hname hfile harchive, hextract]
                rintro ⟨_, hsome, -⟩
                cases hsome
              · simp [loadSchema, hstack, hfile, hname, harchive, hextract]

/-- A schema that was loaded is well formed. -/
theorem wellFormed_of_loadSchema {verbose : Bool} {s : Schema}
    (h : (loadSchema w t p verbose).result = .ok s) : s.WellFormed := by
  obtain ⟨-, herror⟩ | ⟨-, _, _, _, -, -, -, -, herror⟩ | ⟨-, -, tree, path, source, hparse⟩ :=
    loadSchema_cases (w := w) (t := t) (p := p) verbose
  · rw [herror] at h
    cases h
  · rw [herror] at h
    cases h
  · exact wellFormed_of_parseSchema (hparse ▸ h)

/-- Loading the schema at `p` ends without a report: for lack of stack, or because of an archive. -/
def LoadEscapes (w : Workspace) (t : FileTree) (p : Place) : Prop :=
  w.platform.isExhausted t p = true ∨ ArchiveEscapes w t p

/-- An error in loading a schema is reported unless it escapes. -/
theorem loadEscapes_iff (verbose : Bool) : LoadEscapes w t p ↔
    ∃ e, (loadSchema w t p verbose).result = .error e ∧ ¬ e.IsReported := by
  obtain ⟨hstack, herror⟩ | ⟨hstack, name, c, e, hname, hfile, harchive, hextract, herror⟩ |
    ⟨hstack, hnone, _, _, _, hparse⟩ := loadSchema_cases (w := w) (t := t) (p := p) verbose
  · refine iff_of_true (.inl hstack) ⟨_, herror, ?_⟩
    simp [CommandError.IsReported, CommandError.isShown]
  · rw [LoadEscapes, hstack, archiveEscapes_iff_of_file hname hfile harchive, hextract, herror]
    simp only [Option.some.injEq, Except.error.injEq, Bool.false_eq_true, false_or]
  · rw [LoadEscapes, hstack]
    refine iff_of_false (by simpa using hnone) ?_
    rintro ⟨e, he, hreported⟩
    exact absurd (isReported_of_parseSchema (hparse ▸ he)) hreported

end

end Cli

end TypedQuery
