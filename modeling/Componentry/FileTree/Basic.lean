import Componentry.Path

/-!
# File trees

A file tree is what the root directory holds: files with their bytes, symbolic
links with the path they point to, and directories.  A **place** in the tree is given
by the names on the way to it, so every file and directory has exactly one place,
however many paths lead there.
-/

namespace Componentry

/-- What a directory holds under a name. -/
inductive FileEntry where
  | file (name : Text) (bytes : List UInt8)
  | link (name : Text) (target : Path)
  | directory (name : Text) (entries : List FileEntry)

/-- The names on the way from the root to a place. -/
abbrev FilePlace := List Text

namespace FileEntry

/-- The name of an entry. -/
def name : FileEntry → Text
  | .file name _ => name
  | .link name _ => name
  | .directory name _ => name

/-- The entries of a directory; a file or a link has none. -/
def entries : FileEntry → List FileEntry
  | .directory _ entries => entries
  | _ => []

/-- Puts an entry beside others, in place of an entry with its name. -/
def put (entry : FileEntry) (entries : List FileEntry) : List FileEntry :=
  entries.filter (·.name != entry.name) ++ [entry]

/-- Puts an entry into the directory at a place below `entries`; directories on
the way are made if they are not there. -/
def putAt (entry : FileEntry) : FilePlace → List FileEntry → List FileEntry
  | [], entries => put entry entries
  | name :: more, entries =>
    let inner := match entries.find? (·.name == name) with
      | some found => found.entries
      | none => []
    put (.directory name (putAt entry more inner)) entries

/-- The entries of the directory at a place below `entries`; none if there is no
such directory. -/
def entriesAt (entries : List FileEntry) : FilePlace → List FileEntry
  | [] => entries
  | name :: more =>
    match entries.find? (·.name == name) with
    | some found => entriesAt found.entries more
    | none => []

mutual

/-- The number of directories that an entry is and holds. -/
def directoryCount : FileEntry → Nat
  | .directory _ entries => directoryCounts entries + 1
  | _ => 0

/-- The number of directories that entries are and hold. -/
def directoryCounts : List FileEntry → Nat
  | [] => 0
  | entry :: more => directoryCount entry + directoryCounts more

end

end FileEntry

/-- A file tree: what the root directory holds. -/
structure FileTree where
  entries : List FileEntry

namespace FileTree

/-- The tree that holds nothing. -/
def empty : FileTree := ⟨[]⟩

/-- The tree with one more file. -/
def addFile (tree : FileTree) (place : FilePlace) (bytes : List UInt8) : FileTree :=
  match place.getLast? with
  | none => tree
  | some name => ⟨FileEntry.putAt (.file name bytes) place.dropLast tree.entries⟩

/-- The tree with one more symbolic link. -/
def addLink (tree : FileTree) (place : FilePlace) (target : Path) : FileTree :=
  match place.getLast? with
  | none => tree
  | some name => ⟨FileEntry.putAt (.link name target) place.dropLast tree.entries⟩

/-- The tree with a directory at a place; one that is there already keeps its
entries. -/
def addDirectory (tree : FileTree) (place : FilePlace) : FileTree :=
  match place.getLast? with
  | none => tree
  | some name =>
    ⟨FileEntry.putAt (.directory name (FileEntry.entriesAt tree.entries place))
      place.dropLast tree.entries⟩

/-- The entries of the directory at a place. -/
def entriesAt (tree : FileTree) (place : FilePlace) : List FileEntry :=
  FileEntry.entriesAt tree.entries place

end FileTree

end Componentry
