import Componentry.FileTree.Resolve

/-!
# Listing the files below a directory

All files below a directory, in subdirectories too, each under the path that leads to
it from the path of the directory.  Links are followed: a link to a file counts as a
file, a link to a directory is listed like the directory.  A link to a directory
that is being listed already would never end and is passed over, as is a link that
leads nowhere.
-/

namespace Componentry

mutual

/-- The files of an entry of the directory `here`, which is listed under `path`.
`above` are the directories being listed, and `enter` lists a directory that a link
leads to. -/
def FileEntry.listing (tree : FileTree) (enter : List FilePlace → FilePlace → Path → List Path)
    (above : List FilePlace) (here : FilePlace) (path : Path) : FileEntry → List Path
  | .file name _ => [Path.join path name]
  | .directory name entries =>
    FileEntry.listings tree enter ((here ++ [name]) :: above) (here ++ [name])
      (Path.join path name) entries
  | .link name target =>
    match tree.resolveFrom here target with
    | .error _ => []
    | .ok (.file _) => [Path.join path name]
    | .ok (.directory place) =>
      if above.contains place then [] else enter above place (Path.join path name)

/-- The files of several entries of a directory. -/
def FileEntry.listings (tree : FileTree) (enter : List FilePlace → FilePlace → Path → List Path)
    (above : List FilePlace) (here : FilePlace) (path : Path) : List FileEntry → List Path
  | [] => []
  | entry :: more =>
    FileEntry.listing tree enter above here path entry ++
      FileEntry.listings tree enter above here path more

end

namespace FileTree

/-- The files below the directory at a place, which is listed under `path`.  At
most `links` links to directories are followed one below the other. -/
def filesBelow (tree : FileTree) : Nat → List FilePlace → FilePlace → Path → List Path
  | 0, _, _, _ => []
  | links + 1, above, here, path =>
    FileEntry.listings tree (filesBelow tree links) (here :: above) here path (tree.entriesAt here)

/-- The files below a directory; a path that leads to a file gives that file.  The
directories listed one below the other through links differ, so that their number
is no limit. -/
def files (tree : FileTree) (path : Path) : List Path :=
  match tree.resolve path with
  | .error _ => []
  | .ok (.file _) => [path]
  | .ok (.directory here) =>
    tree.filesBelow (FileEntry.directoryCounts tree.entries + 2) [] here path

end FileTree

end Componentry
