import Componentry.Discovery
import Componentry.Engine.Basic

/-!
# Engines from files

An engine can be built from the files of a directory or from files given by their
paths.  The first file that cannot be read stops this.
-/

namespace Componentry

/-- Why no engine can be built from files. -/
inductive LoadFault where
  | unreadable (fault : ReadFault)
  | structural (fault : StructuralFault)

namespace Engine

/-- The engine of units that may have been read. -/
def ofRead (options : Options) (units : Except ReadFault (List SourceUnit)) :
    Except LoadFault Engine := do
  let units ← units.mapError .unreadable
  (ofUnits options units).mapError .structural

/-- The engine of the files below a directory that fit the patterns of the
options. -/
def ofDirectory (options : Options) (tree : FileTree) (dir : Path) : Except LoadFault Engine :=
  ofRead options (tree.loadDirectory dir options.patterns)

/-- The engine of files given by their paths. -/
def ofPaths (options : Options) (tree : FileTree) (paths : List Path) : Except LoadFault Engine :=
  ofRead options (tree.loadUnits paths)

end Engine

end Componentry
