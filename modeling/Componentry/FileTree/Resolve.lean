import Componentry.FileTree.Basic

/-!
# Following paths

A path is followed part by part from the root.  A parent directory is the one that
holds the directory reached so far, not the one written before it; a symbolic link is
replaced by its target, and at most forty links are followed for one path.  Every
part needs a directory to look in, also an empty one behind a last separator.
-/

namespace Componentry

/-- Why a file cannot be reached or read. -/
inductive FileFault where
  /-- Nothing has this name. -/
  | missing
  /-- A part of the path is looked up in a file. -/
  | notDirectory
  /-- A directory is read as a file. -/
  | isDirectory
  /-- Too many links were followed. -/
  | tooManyLinks
  /-- The bytes of a file are not UTF-8. -/
  | notText
deriving DecidableEq, Repr

/-- What a path leads to. -/
inductive FoundEntry where
  | file (bytes : List UInt8)
  | directory (place : FilePlace)
deriving DecidableEq, Repr

namespace FileTree

/-- How many links are followed for one path. -/
def linkLimit : Nat := 40

/-- Follows the parts of a path from what was reached so far.  `onLink` continues
behind a link: it is given the directory that the link lies in, the target and the
parts behind the link. -/
def followParts (tree : FileTree)
    (onLink : FilePlace → Path → List Text → Except FileFault FoundEntry) :
    FoundEntry → List Text → Except FileFault FoundEntry
  | found, [] => .ok found
  | .file _, _ :: _ => .error .notDirectory
  | .directory here, part :: more =>
    match Path.component? part with
    | some .parent => followParts tree onLink (.directory here.dropLast) more
    | some (.normal name) =>
      match (tree.entriesAt here).find? (·.name == name) with
      | none => .error .missing
      | some (.file _ bytes) => followParts tree onLink (.file bytes) more
      | some (.link _ target) => onLink here target more
      | some (.directory _ _) => followParts tree onLink (.directory (here ++ [name])) more
    | _ => followParts tree onLink (.directory here) more

/-- Follows the parts of a path; `links` is how many links may still be followed. -/
def follow (tree : FileTree) : Nat → FilePlace → List Text → Except FileFault FoundEntry
  | 0, here, parts => followParts tree (fun _ _ _ => .error .tooManyLinks) (.directory here) parts
  | links + 1, here, parts =>
    followParts tree
      (fun here target more =>
        let start := if Path.isAbsolute target then [] else here
        follow tree links start (Text.splitAt '/' target ++ more))
      (.directory here) parts

/-- What a path leads to from a directory. -/
def resolveFrom (tree : FileTree) (here : FilePlace) (path : Path) : Except FileFault FoundEntry :=
  let start := if Path.isAbsolute path then [] else here
  follow tree linkLimit start (Text.splitAt '/' path)

/-- What a path leads to from the root. -/
def resolve (tree : FileTree) (path : Path) : Except FileFault FoundEntry :=
  resolveFrom tree [] path

/-- Whether a path leads to a directory. -/
def isDirectory (tree : FileTree) (path : Path) : Bool :=
  match tree.resolve path with
  | .ok (.directory _) => true
  | _ => false

/-- The text of the file that a path leads to. -/
def readText (tree : FileTree) (path : Path) : Except FileFault Text := do
  match ← tree.resolve path with
  | .directory _ => .error .isDirectory
  | .file bytes =>
    match Text.ofUtf8? bytes with
    | some text => .ok text
    | none => .error .notText

end FileTree

end Componentry
