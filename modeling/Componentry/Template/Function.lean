import Componentry.Template.Arguments
import Componentry.Template.Escape
import Componentry.Template.Run

/-!
# Functions

What the functions do that templates can call.

* `dict` makes a map out of keys and values that alternate; `merge` puts maps
  together, later ones winning.
* `cat` joins values into markup, escaping what is not safe.
* `deferred` marks a source as slot content.
* `invoke` runs a definition with props.  A failure of it is reported as an event
  and gives empty markup, so that it never spreads to the caller.
* `range`, `debug` and `namespace` are there in every template.  The values that
  `namespace` makes are spaces, in which names can be set.
-/

namespace Componentry.Template

/-- How a definition is run by name with props. -/
abbrev Invoker := Text → Value → Run Text

namespace Function

/-- The name that a function is called by. -/
def name : Function → Text
  | dict => ['d', 'i', 'c', 't']
  | merge => ['m', 'e', 'r', 'g', 'e']
  | cat => ['c', 'a', 't']
  | deferred => ['d', 'e', 'f', 'e', 'r', 'r', 'e', 'd']
  | invoke => ['i', 'n', 'v', 'o', 'k', 'e']
  | range => ['r', 'a', 'n', 'g', 'e']
  | debug => ['d', 'e', 'b', 'u', 'g']
  | space => ['n', 'a', 'm', 'e', 's', 'p', 'a', 'c', 'e']

/-- The function of a name. -/
def named? (name : Text) : Option Function :=
  [dict, merge, cat, deferred, invoke, range, debug, space].find? fun f => f.name = name

/-- The entries of keys and values that alternate. -/
def pairs : List Value → Except Cause (List (Text × Value))
  | [] => .ok []
  | [_] => .error .oddArguments
  | k :: v :: more => (pairs more).map ((k.keyText, v) :: ·)

/-- The map of keys and values that alternate.  A repeated key keeps its last
value. -/
def makeDict (values : List Value) : Except Cause Value := (pairs values).map .ofNamed

/-- The named entries that a value contributes to a merged map. -/
def mergeEntries (v : Value) : Except Cause (List (Text × Value)) :=
  match v.entries? with
  | some entries => .ok (entries.map fun (k, v) => (k.keyText, v))
  | none => if v.isMissing then .ok [] else .error (.notMergeable v.kind)

/-- The entries of maps, in order. -/
def mergeAll : List Value → Except Cause (List (Text × Value))
  | [] => .ok []
  | v :: more => do
    let entries ← mergeEntries v
    let rest ← mergeAll more
    return entries ++ rest

/-- One map out of several; later entries win. -/
def makeMerge (values : List Value) : Except Cause Value := (mergeAll values).map .ofNamed

/-- Values joined into markup; missing ones are left out. -/
def makeCat (values : List Value) : Value :=
  .ofMarkup (values.flatMap fun v => if v.isMissing then [] else v.markup)

/-- Marks a text as slot content. -/
def makeDeferred (args : Arguments) : Except Cause Value := do
  let source ← args.text 0
  args.atMost 1
  return .deferred source

/-- The name and the props of an invocation. -/
def invokeArguments (args : Arguments) : Except Cause (Text × Value) := do
  let name ← args.text 0
  args.atMost 2
  return (name, (args.optional 1).getD .undefined)

/-- The event of an invocation that failed. -/
def failedEvent (name : Text) (failure : Failure) : LogEvent :=
  ⟨.warning, "partial execution failed".toList,
    [("component", .text name), ("error", .text failure.cause.message)]⟩

/-- The outcome of a run as markup; a failure is reported and gives no markup. -/
def contained (name : Text) (run : Run Text) : Run Value :=
  tryCatch (return .ofMarkup (← run)) fun failure => do
    Run.log (failedEvent name failure)
    return .ofMarkup []

/-- The whole numbers between two bounds, the upper one left out, or those of them
that a step hits, which may go down. -/
def numbers (low high : Int) (step : Int) : List Value :=
  let count := if step < 0 then (low - high + (-step - 1)) / -step else (high - low + (step - 1)) / step
  (List.range count.toNat).map fun (i : Nat) => .int (low + i * step)

/-- The most numbers that a range may have. -/
def rangeLimit : Nat := 100000

/-- A list of numbers, unless there are too many. -/
def limited (items : List Value) : Except Cause Value :=
  if rangeLimit < items.length then .error .invalidOperation else .ok (.iterable items)

/-- The numbers up to a bound, or from one to another, in steps. -/
def makeRange (args : Arguments) : Except Cause Value := do
  let _ ← args.value 0
  let bound := (← args.whole? 0).getD 0
  let high ← args.whole? 1
  let step := (← args.whole? 2).getD 1
  args.atMost 3
  if step = 0 then .error .invalidOperation
  else
    match high with
    | none => limited (numbers 0 bound step)
    | some high => limited (numbers bound high step)

/-- The entries that a space starts with: those of a map whose keys are texts. -/
def spaceEntries (args : Arguments) : Except Cause (List (Value × Value)) := do
  args.atMost 1
  match args.optional 0 with
  | none => return []
  | some v =>
    match v.entries? with
    | some entries => return entries.filter fun (k, _) => k.text?.isSome
    | none => .error .invalidOperation

end Function

end Componentry.Template
