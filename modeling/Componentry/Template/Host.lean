import Componentry.Template.Scope

/-!
# Calls, and what runs outside of a template

A template runs in a `Host`: definitions that it invokes, other templates that it refers to,
the data, and the runs of code that is not part of the code at hand.  A template can come back
to the same code without end, by including itself, by calling macros or by running a loop for
other items; so this code is run by a **jump** (`Host.run`), which is a parameter here, and all
else is plain recursion on the code.  That frames nest at most `recursionLimit` deep ends every
run; a macro counts four times for this and an included template ten times.
-/

namespace Componentry.Template

/-- Templates that can be referred to by name. -/
@[ext]
structure Library where
  find? : Text → Option (List Stmt)
  /-- How many there are. -/
  size : Nat
  /-- So many names are all that have a template. -/
  bounded : ∃ names : List Text, names.length = size ∧
    ∀ name, (find? name).isSome = true → name ∈ names

/-- The library without templates. -/
def Library.empty : Library := ⟨fun _ => none, 0, [], rfl, fun _ h => (by cases h)⟩

/-- How deep frames may nest. -/
def recursionLimit : Nat := 500

/-- Runs that read and set variables. -/
abbrev Exec := StateT Scope Run

/-- Code that a run jumps to. -/
inductive Jump where
  /-- A whole body: of a template, or of a block. -/
  | body (statements : List Stmt)
  /-- The rounds of a loop for other items. -/
  | rounds (loop : LoopCode) (items : Value)
  /-- The body of a macro, with the values of its parameters. -/
  | routine (code : Macro) (values : List Value)

/-- What a template runs in. -/
structure Host where
  /-- How definitions are invoked. -/
  invoker : Invoker
  /-- The templates that it refers to. -/
  library : Library
  /-- The data. -/
  data : Value
  /-- How jumps are run. -/
  run : Jump → Exec Text

namespace Exec

/-- Fails on the line of an expression. -/
def fail {α : Type} (cause : Cause) (line : Nat) : Exec α := Run.atLine line (Run.fail cause)

/-- Fails if frames nest too deep, were they to nest deeper by so many. -/
def guardNesting (more : Nat) : Exec Unit := do
  if recursionLimit < (← get).nesting + more then Run.fail .invalidOperation

/-- Runs something in a frame of its own. -/
def inFrame {α : Type} (frame : Frame) (run : Exec α) : Exec α := do
  guardNesting 0
  modify (Scope.push frame)
  let a ← run
  modify Scope.pop
  return a

/-- A text that is written, unless what is written is dropped. -/
def write (text : Text) : Exec Text := do
  return if (← get).discarding then [] else text

/-- A value that is written, escaped where values are. -/
def writeValue (v : Value) : Exec Text := do
  write (if (← get).escaping then v.markup else v.text)

/-- What something writes, as a value: markup where values are escaped.  It is undefined
where the run comes to a parent. -/
def capture (run : Exec Text) : Exec Value := do
  let before ← get
  modify fun s => { s with discarding := false }
  let text ← run
  let after ← get
  if before.parent.isNone && after.parent.isSome then return .undefined
  else
    modify fun s => { s with discarding := before.discarding }
    return .string text after.escaping

end Exec

/-- A jump out of an expression: what it writes is a value. -/
def Scope.captured (s : Scope) (run : Exec Text) : Run Value := do
  let (text, _) ← run.run { s with discarding := false }
  return .string text s.escaping

/-! ## Functions -/

namespace Function

/-- What is known when nothing is asked for: the data and the variables. -/
def known (data : Value) (s : Scope) : Value :=
  .ofEntries ((data.entries?.getD []) ++ s.allVars.map fun (name, v) => (.ofText name, v))

/-- The text that shows values, or all that is known. -/
def makeDebug (data : Value) (s : Scope) (args : Arguments) : Value :=
  match args.values with
  | [] => .ofText ((known data s).prettyText [])
  | [v] => .ofText (v.prettyText [])
  | values => .ofText ((Value.list values).prettyText [])

/-- A new space. -/
def makeSpace (args : Arguments) : Run Value := do
  let entries ← Run.ofExcept (spaceEntries args)
  return .record (.space (← Run.newCell entries)) entries

/-- Calls a function. -/
def call (h : Host) (s : Scope) (f : Function) (args : Arguments) : Run Value :=
  match f with
  | dict => Run.ofExcept (makeDict args.values)
  | merge => Run.ofExcept (makeMerge args.values)
  | cat => return makeCat args.values
  | deferred => Run.ofExcept (makeDeferred args)
  | invoke => do
    let (name, props) ← Run.ofExcept (invokeArguments args)
    contained name (h.invoker name props)
  | range => Run.ofExcept (makeRange args)
  | debug => return makeDebug h.data s args
  | space => makeSpace args

end Function

/-! ## Macros -/

namespace Macro

/-- The positional arguments, and the map of the named ones. -/
def splitArguments (args : Arguments) : List Value × Value :=
  if args.named then (args.values.dropLast, args.values.getLast?.getD .undefined)
  else (args.values, .undefined)

/-- The value of a parameter, which is given once at most. -/
def parameterValue (positional : List Value) (named : Value) (name : Text) (i : Nat) :
    Except Cause Value :=
  match positional[i]?, named.member? name with
  | some _, some _ => .error .tooManyArguments
  | some v, none | none, some v => .ok v
  | none, none => .ok .undefined

/-- The values of the parameters, and the body of the call if the macro uses one. -/
def bindArguments (code : Macro) (args : Arguments) :
    Except Cause (List Value × Option Value) := do
  let (positional, named) := splitArguments args
  if code.parameters.length < positional.length then .error .tooManyArguments
  else
    let values ← code.parameters.zipIdx.mapM fun (name, i) => parameterValue positional named name i
    let isKnown := fun name =>
      code.parameters.contains name || code.usesCaller && name == callerName
    if (named.entries?.getD []).all fun (k, _) => isKnown k.keyText then
      return (values, if code.usesCaller then some ((named.member? callerName).getD .undefined)
        else none)
    else .error .tooManyArguments

/-- Calls a macro. -/
def call (h : Host) (s : Scope) (code : Macro) (closure : Nat) (args : Arguments) : Run Value := do
  let (values, caller) ← Run.ofExcept (code.bindArguments args)
  (s.inMacro closure caller).captured do
    Exec.guardNesting 0
    h.run (.routine code values)

/-- The closure of the macros in the innermost frame.  It is a new one if there is none yet;
then only a macro that takes something along leaves it there. -/
def closure (code : Macro) : Exec Nat := do
  match (← get).frameClosure? with
  | some number => return number
  | none => do
    let number ← Run.newClosure
    modify fun s => (s.addClosure number).modifyFrame fun f =>
      if code.freeNames.isEmpty then f else { f with closure := some number }
    return number

/-- Makes a macro in the innermost frame, whose closure takes along what the macro uses. -/
def define (code : Macro) : Exec Value := do
  let number ← code.closure
  modify fun s => code.freeNames.foldl (Scope.enclose number) s
  return .routine code number

end Macro

namespace Value

/-- Calls a value: a function, or a macro of the same run.  The variable of a loop only looks
like a function that is not known. -/
def call (h : Host) (s : Scope) (v : Value) (args : Arguments) : Run Value :=
  match v with
  | function f => f.call h s args
  | routine code closure =>
    if s.hasClosure closure then code.call h s closure args else Run.fail .invalidOperation
  | record (.round ..) _ => Run.fail .unknownFunction
  | _ => Run.fail .invalidOperation

/-! ## Loops -/

/-- The position of the round that the variable `loop` stands for. -/
def round? (v : Value) : Option Nat :=
  match v.member? "index0".toList with
  | some (int (.ofNat i)) => some i
  | _ => Option.none

/-- The argument whose turn it is in a round of a loop. -/
def turn (round : Nat) (args : Arguments) : Value :=
  (args.value? (round % args.values.length)).getD undefined

/-- Whether values are those that a loop was last asked to watch. -/
def areWatched (entries : List (Value × Value)) (values : List Value) : Bool :=
  match lookup none entries with
  | some last => last.equal (list values)
  | Option.none => false

/-- Whether values differ from those that a loop was last asked to watch. -/
def changed (cell : Nat) (values : List Value) : Run Value := do
  if areWatched (← Run.readCell cell) values then return bool false
  else do
    Run.setCell cell none (list values)
    return bool true

/-- Calls an attribute of a value: what it holds under the name, or what a loop can be
asked. -/
def callMember (h : Host) (s : Scope) (v : Value) (name : Text) (args : Arguments) : Run Value :=
  match v with
  | record (.round _ cell) _ =>
    if name = "changed".toList then changed cell args.values
    else
      match if name = "cycle".toList then v.round? else Option.none with
      | some round => return turn round args
      | Option.none => Run.fail .unknownMethod
  | v =>
    match v.member? name with
    | some f => f.call h s args
    | Option.none => Run.fail .unknownMethod

end Value

/-- Runs the innermost loop for other items, if it may be. -/
def Scope.recurse (s : Scope) (h : Host) (args : Arguments) : Run Value :=
  match args.values, s.innermostLoop?.bind LoopFrame.code with
  | [items], some loop => s.captured (h.run (.rounds loop items))
  | _, _ => Run.fail .invalidOperation

/-! ## Blocks -/

namespace BlockStack

/-- Runs the layer of a block whose turn it is. -/
def run (h : Host) (b : BlockStack) : Exec Text :=
  match b.layers[b.depth]? with
  | none => Run.fail .invalidOperation
  | some layer =>
    if layer.required then Exec.fail .invalidOperation layer.line
    else do
      let before := (← get).block
      modify fun s => { s with block := some b.name }
      let text ← Exec.inFrame .empty (h.run (.body layer.body))
      modify fun s => { s with block := before }
      return text

end BlockStack

namespace Scope

/-- Runs the next layer of the block that runs. -/
def callSuper (s : Scope) (h : Host) (args : Arguments) : Run Value :=
  match args.values, s.block.bind s.block? with
  | [], some b =>
    let next := { b with depth := b.depth + 1 }
    (s.setBlock next).captured (next.run h)
  | _, _ => Run.fail .invalidOperation

/-- Runs the block of a name, unless a parent is yet to be run. -/
def callBlock (s : Scope) (h : Host) (name : Text) : Run Value :=
  if s.parent.isSome then return .string [] s.escaping
  else
    match s.block? name with
    | some b => s.captured (b.run h)
    | none => Run.fail .invalidOperation

end Scope

/-! ## Names -/

/-- A value of the data as something to be called.  The macros among the data belong to other
runs. -/
def Value.asCallee : Value → Value
  | routine .. => undefined
  | v => v

namespace Scope

/-- What is called by a name. -/
def callee? (data : Value) (s : Scope) (name : Text) : Option Value :=
  match s.sight name with
  | .value v => some v
  | .data enclosed =>
    ((inData? data name).map Value.asCallee).or (if enclosed then some .undefined else none)
  | .nothing => (Function.named? name).map .function

/-- Calls what a name means.  Two names stand for calls that only some places allow: of the
loop they are in, and of the block that the one at hand replaces. -/
def call (s : Scope) (h : Host) (name : Text) (args : Arguments) : Run Value :=
  if name = ['s', 'u', 'p', 'e', 'r'] then s.callSuper h args
  else if name = Keyword.kLoop.text then s.recurse h args
  else
    match s.callee? h.data name with
    | some f => f.call h s args
    | none => Run.fail .unknownFunction

end Scope

end Componentry.Template
