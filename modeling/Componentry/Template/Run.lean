import Componentry.Log
import Componentry.Template.Failure

/-!
# Runs of templates

`Run` is the type of computations that may fail and that share a **memory**: the events
reported so far, and what templates can change behind a value's back.  The memory stays as
it is when a computation fails.

A value that names can be set in, a **space**, shows the entries that its cell had when the
value was last looked at.  It is brought up to date when a variable is looked up
(`Run.refresh`), so that everything else can work with values alone.
-/

namespace Componentry.Template

/-- What runs share. -/
structure Memory where
  /-- The events reported so far. -/
  events : List LogEvent
  /-- The entries in the cells of the spaces and loops made so far. -/
  spaces : List (List (Value × Value))
  /-- How many closures have been made so far. -/
  closures : Nat

/-- The memory in which nothing has been made, only events reported. -/
def Memory.ofEvents (events : List LogEvent) : Memory := ⟨events, [], 0⟩

namespace Value

mutual

/-- A value in which each space shows what its cell holds. -/
def update (cells : Nat → Option (List (Value × Value))) : Value → Value
  | list items => list (updateItems cells items)
  | iterable items => iterable (updateItems cells items)
  | map entries => map (updateEntries cells entries)
  | record form entries =>
    match form with
    | .space cell => record form ((cells cell).getD entries)
    | _ => record form (updateEntries cells entries)
  | v => v
termination_by structural v => v

/-- Items in which each space shows what its cell holds. -/
def updateItems (cells : Nat → Option (List (Value × Value))) : List Value → List Value
  | [] => []
  | v :: more => update cells v :: updateItems cells more
termination_by structural vs => vs

/-- Entries in which each space shows what its cell holds. -/
def updateEntries (cells : Nat → Option (List (Value × Value))) :
    List (Value × Value) → List (Value × Value)
  | [] => []
  | (k, v) :: more => (update cells k, update cells v) :: updateEntries cells more
termination_by structural es => es

end

end Value

/-- What the cells hold, with the spaces in it up to date to so many levels. -/
def Memory.cells (m : Memory) : (levels : Nat) → Nat → Option (List (Value × Value))
  | 0, cell => m.spaces[cell]?
  | levels + 1, cell => (m.spaces[cell]?).map (Value.updateEntries (m.cells levels))

/-- Computations that may fail and share a memory. -/
abbrev Run := ExceptT Failure (StateM Memory)

namespace Run

/-- Reports an event. -/
def log (event : LogEvent) : Run Unit := modify fun m => { m with events := m.events ++ [event] }

/-- Fails for a cause, on no line yet. -/
def fail {α : Type} (cause : Cause) : Run α := throw ⟨cause, none⟩

/-- A result that may have failed for a cause. -/
def ofExcept {α : Type} : Except Cause α → Run α
  | .ok a => pure a
  | .error cause => fail cause

/-- Gives a failure the line of the expression it comes from, unless it has one. -/
def atLine {α : Type} (line : Nat) (run : Run α) : Run α :=
  tryCatch run fun f => throw { f with line := f.line.orElse fun _ => some line }

/-- The result of a computation and the events it reports. -/
def result {α : Type} (run : Run α) : Except Failure α × List LogEvent :=
  let (result, m) := (run.run).run (.ofEvents [])
  (result, m.events)

/-! ## Cells -/

/-- A value that shows what the cells hold now.  A space may hold itself; then it shows as
many levels as there are cells. -/
def refresh (v : Value) : Run Value := do
  let m ← get
  return if m.spaces.isEmpty then v else v.update (m.cells m.spaces.length)

/-- The entries in a cell. -/
def readCell (cell : Nat) : Run (List (Value × Value)) := do
  return ((← get).spaces[cell]?).getD []

/-- Makes a cell. -/
def newCell (entries : List (Value × Value)) : Run Nat :=
  modifyGet fun m => (m.spaces.length, { m with spaces := m.spaces ++ [entries] })

/-- Sets a key in a cell. -/
def setCell (cell : Nat) (key value : Value) : Run Unit :=
  modify fun m => { m with spaces := m.spaces.modify cell (Value.insert key value) }

/-- The number of a new closure. -/
def newClosure : Run Nat :=
  modifyGet fun m => (m.closures, { m with closures := m.closures + 1 })

/-- Runs something to the end of a template.  What it has made is given up where nothing
from before can hold it: only the events stay then. -/
def toEnd {α : Type} (run : Run α) : Run α := ExceptT.mk do
  let before ← get
  let result ← run.run
  modify fun after =>
    if before.spaces.isEmpty then { before with events := after.events } else after
  return result

end Run

end Componentry.Template
