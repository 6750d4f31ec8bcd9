import TypedQuery.Archive.Untar
import TypedQuery.Client.Template

/-!
# Where a program works

A program works in some directory, on some platform. What the platform decides is left open here,
and all that is said of the program holds on every platform.
-/

namespace TypedQuery

/-- What a program leaves to the platform that it runs on. -/
structure Platform where
  /-- Extracts tar archives. -/
  untar : Archive.Tar.Extractor := Archive.Tar.plain
  /-- The template that the text of the file at a place stands for. The text may call for other
  files, but nothing is changed by it. -/
  template : FileTree → Place → String → Client.Template := fun _ _ => Client.Template.ofText
  /-- Whether there is too little stack for the schema at a place: its types, or the directories
  that it is spread over, are nested too deep. -/
  isExhausted : FileTree → Place → Bool := fun _ _ => false

/-- Where a program works: how it writes the top of the tree, the directory that it works in, the
directory that it unpacks archives to, and the platform. -/
structure Workspace where
  root : String := "/"
  cwd : Place := []
  temp : Place := ["tmp"]
  platform : Platform := {}

/-- The absolute path of a place. -/
def Workspace.path (w : Workspace) (p : Place) : PathText := ⟨some w.root, p⟩

end TypedQuery
