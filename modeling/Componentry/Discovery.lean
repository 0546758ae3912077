import Componentry.FileTree.Listing
import Componentry.Glob
import Componentry.Log
import Componentry.Source

/-!
# Finding and reading the units of a project

The units of a directory are all files below it whose name fits a pattern, named
relative to the directory.  Units given by their paths are named relative to the
deepest directory that holds them all.  Units come in the order of their paths, and
a path counts once.
-/

namespace Componentry

/-- A file that could not be read. -/
structure ReadFault where
  path : Path
  cause : FileFault
deriving DecidableEq, Repr

namespace FileTree

/-- The files below a directory whose name fits one of the patterns. -/
def find (tree : FileTree) (dir : Path) (patterns : List Text) : List Path :=
  Path.sortDistinct <| (tree.files dir).filter fun path =>
    match Path.baseName? path with
    | some name => patterns.any (Glob.accepts · name)
    | none => false

/-- Reads a file as a unit named relative to a directory. -/
def readUnit (tree : FileTree) (root path : Path) : Except ReadFault SourceUnit :=
  match tree.readText path with
  | .error cause => .error ⟨path, cause⟩
  | .ok raw =>
    .ok ⟨path, Path.logicalName (Path.relativeTo (Path.components root) (Path.components path)),
      raw⟩

/-- Reads files as units named relative to the deepest directory that holds
them. -/
def loadUnits (tree : FileTree) (paths : List Path) : Except ReadFault (List SourceUnit) :=
  let paths := Path.sortDistinct paths
  paths.mapM (tree.readUnit (Path.commonDir paths))

/-- Reads the files below a directory whose name fits one of the patterns. -/
def loadDirectory (tree : FileTree) (dir : Path) (patterns : List Text) :
    Except ReadFault (List SourceUnit) :=
  if tree.isDirectory dir then (tree.find dir patterns).mapM (tree.readUnit dir)
  else .error ⟨dir, .missing⟩

/-- The event of reading a directory: how many files were found. -/
def discoveryEvent (tree : FileTree) (dir : Path) (patterns : List Text) : LogEvent :=
  ⟨.debug, "discovered sources".toList, [("count", .number (tree.find dir patterns).length)]⟩

end FileTree

end Componentry
