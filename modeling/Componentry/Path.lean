import Componentry.Text.Basic

/-!
# Paths

A path is a text with `/` between its components.  Repeated separators and single
dots between components do not count; a path may start at the root or at the
current directory.  Paths are compared by their components, while a part of a
path keeps the spelling it has there: `Path.parts` therefore gives every
component together with the path up to it.
-/

namespace Componentry

/-- A component of a path. -/
inductive PathComponent where
  | root
  | current
  | parent
  | normal (name : Text)
deriving DecidableEq, Repr

namespace PathComponent

/-- The place of a component's kind in the order of components. -/
def rank : PathComponent → Nat
  | .root => 0
  | .current => 1
  | .parent => 2
  | .normal _ => 3

/-- The order of components: the root, the current directory, parent directories,
then names by their code points. -/
def order : PathComponent → PathComponent → Ordering
  | .normal a, .normal b => Text.order a b
  | a, b => compare a.rank b.rank

/-- The name of a component that has one. -/
def name? : PathComponent → Option Text
  | .normal name => some name
  | _ => none

end PathComponent

/-- A path as it is written. -/
abbrev Path := Text

namespace Path

/-- The component that a part between separators stands for; empty parts and
single dots stand for none. -/
def component? (part : Text) : Option PathComponent :=
  match part with
  | [] | ['.'] => none
  | ['.', '.'] => some .parent
  | name => some (.normal name)

/-- The components of the parts of a path, each with the path up to its end.
`before` is what precedes the parts. -/
def partsFrom (before : Text) : List Text → List (PathComponent × Path)
  | [] => []
  | part :: more =>
    let upTo := before ++ part
    let rest := partsFrom (upTo ++ ['/']) more
    match component? part with
    | none => rest
    | some c => (c, upTo) :: rest

/-- The components of a path, each with the path up to its end. -/
def parts (path : Path) : List (PathComponent × Path) :=
  match path with
  | '/' :: rest => (.root, ['/']) :: partsFrom ['/'] (Text.splitAt '/' rest)
  | _ =>
    match Text.splitAt '/' path with
    | ['.'] :: more => (.current, ['.']) :: partsFrom ['.', '/'] more
    | pieces => partsFrom [] pieces

/-- The components of a path. -/
def components (path : Path) : List PathComponent := (parts path).map Prod.fst

/-- The path that the last of the given components reaches to. -/
def ofParts (parts : List (PathComponent × Path)) : Path :=
  match parts.getLast? with
  | none => []
  | some (_, upTo) => upTo

/-- The components of the parent directory with their paths; none for the root
and for the empty path. -/
def parentParts? (parts : List (PathComponent × Path)) : Option (List (PathComponent × Path)) :=
  match parts.getLast? with
  | none | some (.root, _) => none
  | some _ => some parts.dropLast

/-- Whether a path starts at the root. -/
def isAbsolute (path : Path) : Bool := path.head? == some '/'

/-- The path behind another one; a path that starts at the root stays as it is. -/
def join (path more : Path) : Path :=
  if isAbsolute more then more
  else if path.isEmpty || path.getLast? == some '/' then path ++ more
  else path ++ '/' :: more

/-- The name that a path ends in. -/
def baseName? (path : Path) : Option Text := (components path).getLast?.bind PathComponent.name?

/-- Whether one path leads to the other: its components come first there. -/
def startsWith (path base : List PathComponent) : Bool := base.isPrefixOf path

/-- The order of paths by their components. -/
def order (a b : List PathComponent) : Ordering :=
  match a, b with
  | [], [] => .eq
  | [], _ :: _ => .lt
  | _ :: _, [] => .gt
  | c :: a, d :: b => (c.order d).then (order a b)

/-- Drops every path with the components of the path before it. -/
def dropRepeated : List Path → List Path
  | [] => []
  | path :: more =>
    match dropRepeated more with
    | [] => [path]
    | next :: rest =>
      if components path = components next then path :: rest else path :: next :: rest

/-- Paths in order, each once; of paths with the same components the first one
counts. -/
def sortDistinct (paths : List Path) : List Path :=
  dropRepeated (paths.mergeSort fun a b => (order (components a) (components b)).isLE)

/-- Drops last components until `parent` starts with what is left.  If even that
does not help, nothing is common. -/
def shrink (parent : List PathComponent) (common : List (PathComponent × Path)) :
    Option (List (PathComponent × Path)) :=
  if startsWith parent (common.map Prod.fst) then some common
  else
    match h : parentParts? common with
    | none => none
    | some shorter =>
      have : shorter.length < common.length := by
        unfold parentParts? at h
        split at h
        · cases h
        · cases h
        · rename_i hne
          cases h
          have : common ≠ [] := by
            rintro rfl
            simp_all
          have := List.length_pos_iff.2 this
          simp only [List.length_dropLast]
          omega
      shrink parent shorter
termination_by common.length

/-- The deepest directory that holds every path; empty if there is none. -/
def commonDir (paths : List Path) : Path :=
  let parents := paths.map fun path => (parentParts? (parts path)).getD []
  match parents with
  | [] => []
  | first :: more =>
    ofParts ((more.foldlM (fun common parent => shrink (parent.map Prod.fst) common) first).getD [])

/-- The name of a file without its extension.  A dot in front starts no
extension. -/
def stem (name : Text) : Text :=
  match Text.cutLast? '.' name with
  | none | some ([], _) => name
  | some (before, _) => before

/-- The components that are left of a path behind a leading directory. -/
def relativeTo (base path : List PathComponent) : List PathComponent :=
  if startsWith path base then path.drop base.length else path

/-- The logical name of a file: its components without the extension, joined by
dots. -/
def logicalName (path : List PathComponent) : Text :=
  let stemmed := match path.getLast? with
    | some (.normal name) => path.dropLast ++ (component? (stem name)).toList
    | _ => path
  Text.join ['.'] (stemmed.filterMap PathComponent.name?)

end Path

end Componentry
