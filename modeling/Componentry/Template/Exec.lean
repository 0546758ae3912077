import Componentry.Template.Eval

/-!
# Running statements

`Stmt.exec` runs a statement: it gives the text that the statement writes, and changes the
scope.  Loops, blocks and `with` open a frame of their own, so variables set there are gone
behind them; conditions do not, nor do the templates that are included.

A statement is run by recursion on the statement.  All code from elsewhere is run by a jump of
the host: other templates, the blocks that stand in place of the written ones, macros, and the
rounds of a loop for other items.  `Host.of` is the host whose jumps are run in this very way,
up to so many levels, and `levels` are enough of them for frames that nest as deep as they may.
-/

namespace Componentry.Template

namespace Exec

/-- Computes an expression in the scope at hand. -/
def eval (h : Host) (e : Expr) : Exec Value := do e.eval h (← get)

end Exec

namespace Target

mutual

/-- Assigns a value to a target.  A list of targets takes a value apart that has as
many parts.  An attribute can be assigned if it belongs to a space. -/
def assign (h : Host) (v : Value) : Target → Exec Unit
  | var name => modify (Scope.set name v)
  | member object name => do
    match ← Exec.eval h object with
    | .record (.space cell) _ => Run.setCell cell (.ofText name) v
    | _ => Exec.fail .invalidOperation object.line
  | list targets line =>
    match v.parts? with
    | some parts =>
      if parts.length = targets.length then assignAll h parts targets
      else Exec.fail .cannotUnpack line
    | none => Exec.fail .cannotUnpack line
termination_by structural t => t

/-- Assigns values to targets, one by one. -/
def assignAll (h : Host) : List Value → List Target → Exec Unit
  | v :: values, t :: targets => do
    assign h v t
    assignAll h values targets
  | _, _ => return ()
termination_by structural _ ts => ts

end

end Target

/-! ## Loops -/

/-- What a loop knows of its rounds: all items, and whether it knew their number
before it began. -/
structure Rounds where
  items : List Value
  counted : Bool

namespace Rounds

/-- The rounds of a loop over a value, if it can be looped over.  The characters of a
string are not counted beforehand. -/
def of? (v : Value) : Option Rounds :=
  v.items?.map fun items => ⟨items, v.text?.isNone⟩

/-- A number that depends on how many rounds there are. -/
def ofCount (r : Rounds) (f : Nat → Value) : Value :=
  if r.counted then f r.items.length else .undefined

/-- How the variable `loop` is written in a round. -/
def label (r : Rounds) (i : Nat) : Text :=
  "<loop ".toList ++ Text.ofNat i ++ '/' ::
    (if r.counted then Text.ofNat r.items.length else ['?']) ++ ['>']

/-- The value of the variable `loop` in a round of a loop so many loops deep. -/
def loopValue (r : Rounds) (depth cell i : Nat) : Value :=
  .record (.round (r.label i) cell) [
    (.ofText "index0".toList, .int i),
    (.ofText "index".toList, .int (i + 1)),
    (.ofText "length".toList, r.ofCount fun n => .int n),
    (.ofText "revindex".toList, r.ofCount fun n => .int (n - i)),
    (.ofText "revindex0".toList, r.ofCount fun n => .int (n - i - 1)),
    (.ofText "first".toList, .bool (i = 0)),
    (.ofText "last".toList, r.ofCount fun n => .bool (i + 1 = n)),
    (.ofText "depth".toList, .int (depth + 1)),
    (.ofText "depth0".toList, .int depth),
    (.ofText "previtem".toList, if i = 0 then .undefined else r.items[i - 1]?.getD .undefined),
    (.ofText "nextitem".toList, r.items[i + 1]?.getD .undefined)]

end Rounds

/-- The rounds of a loop whose items pass its condition. -/
def selectRounds (h : Host) (target : Target) (condition : Option Expr)
    (rounds : Rounds) : Exec Rounds :=
  match condition with
  | none => return rounds
  | some test => do
    let depth := (← get).loopDepth
    Exec.inFrame { Frame.empty with loop := some ⟨none, none, depth⟩ } do
      let items ← rounds.items.filterM fun v => do
        target.assign h v
        return (← Exec.eval h test).isTrue
      return ⟨items, true⟩

/-- Runs the body of a loop for every item and joins what it writes. -/
def loopOver (h : Host) (target : Target) (value : Nat → Value) (body : Exec Text) :
    List (Value × Nat) → Exec Text
  | [] => return []
  | (v, i) :: more => do
    modify (Scope.setLoop (value i))
    target.assign h v
    let text ← body
    return text ++ (← loopOver h target value body more)

/-- Runs the rounds of a loop in a frame, perhaps with the code to run it for other items. -/
def runRounds (h : Host) (target : Target) (code : Option LoopCode) (rounds : Rounds)
    (body : Exec Text) : Exec Text := do
  let depth := (← get).loopDepth
  let cell ← Run.newCell []
  Exec.inFrame { Frame.empty with loop := some ⟨none, code, depth⟩ }
    (loopOver h target (rounds.loopValue depth cell) body rounds.items.zipIdx)

/-! ## Filters of blocks -/

/-- Applies filters one after the other.  A failure is on the line of the last
argument so far, or else on the given one. -/
def applyFilters (h : Host) (line : Nat) : Value → List FilterCall → Exec Value
  | v, [] => return v
  | v, f :: more => do
    let scope ← get
    let positional ← Expr.evalArguments h scope false f.arguments
    let named ← Expr.evalArguments h scope true f.arguments
    let line := Expr.argumentsLine line f.arguments
    let w ← withArguments line positional named fun args => applyFilter f.name (args.cons v)
    applyFilters h line w more

/-- Applies the filters of a block to what it has written. -/
def filtered (h : Host) (v : Value) (filters : List FilterCall) : Exec Value :=
  match filters with
  | [] => return v
  | f :: _ => applyFilters h f.line v filters

/-- Whether a value given to `autoescape` turns escaping on; none if it is a text
without that meaning. -/
def escapingOf? : Value → Option Bool
  | .string ['h', 't', 'm', 'l'] _ => some true
  | .string ['n', 'o', 'n', 'e'] _ => some false
  | .string .. => none
  | v => some (v.equal (.bool true))

/-! ## Other templates -/

namespace Library

/-- The values that may be names of templates. -/
def choices : Value → List Value
  | .deferred _ | .function _ | .routine .. => []
  | v => v.parts?.getD [v]

/-- The first of some templates that is there. -/
def first? (library : Library) : List Value → Except Cause (Option (List Stmt))
  | [] => return none
  | v :: more =>
    match v.text? with
    | none => .error .invalidOperation
    | some name =>
      match library.find? name with
      | some body => return some body
      | none => first? library more

end Library

/-- How many frames an included template counts for. -/
def includeDepth : Nat := 10

/-- The scope in which another template is included. -/
def Scope.included (body : List Stmt) (s : Scope) : Scope :=
  { s.modifyFrame fun f => { f with closure := none } with
    escaping := true
    blocks := Stmt.allBlocks body
    depth := s.depth + includeDepth }

/-- The scope behind an included template, out of the one before it. -/
def Scope.behindIncluded (before s : Scope) : Scope :=
  { s.modifyFrame fun f => { f with closure := before.frameClosure? } with
    escaping := before.escaping
    blocks := before.blocks
    loaded := before.loaded
    depth := before.depth }

/-- Includes the first template that is there of those a value names. -/
def includeFirst (h : Host) (v : Value) (ignoreMissing : Bool) (line : Nat) : Exec Text := do
  let names := Library.choices v
  match ← Run.atLine line (Run.ofExcept (h.library.first? names)) with
  | some body => do
    let before ← get
    Exec.guardNesting includeDepth
    modify (Scope.included body)
    let text ← h.run (.body body)
    modify before.behindIncluded
    return text
  | none =>
    if names.isEmpty || ignoreMissing then return []
    else Exec.fail .templateNotFound line

/-- Extends a template: its body is run in the end, with the blocks that are there in place of
its own. -/
def extendFrom (h : Host) (v : Value) (line : Nat) : Exec Text := do
  match (← get).parent, v.text? with
  | none, some name =>
    if (← get).loaded.contains name then Exec.fail .invalidOperation line
    else
      match h.library.find? name with
      | none => Exec.fail .templateNotFound line
      | some body => do
        modify (Scope.extend name body)
        return []
  | _, _ => Exec.fail .invalidOperation line

/-- What the import of a template is assigned to. -/
def Expr.target? : Expr → Option Target
  | var name _ => some (.var name)
  | member object name => some (.member object name)
  | list items line => (items.mapM fun
    | var name _ => some (Target.var name)
    | _ => none).map (Target.list · line)
  | _ => none

/-- The variables that another template sets, as a value that is written as its text. -/
def importModule (h : Host) (e : Expr) : Exec Value :=
  Exec.inFrame .empty do
    let text ← Exec.capture do includeFirst h (← Exec.eval h e) false e.line
    return .record (.module text.text)
      ((Value.ofNamed (← get).frameVars.reverse).entries?.getD [])

/-- The values of names in another template. -/
def importValues (h : Host) (e : Expr) (names : List Text) : Exec (List Value) :=
  Exec.inFrame .empty do
    let before ← get
    modify fun s => { s with discarding := true }
    let _ ← includeFirst h (← Exec.eval h e) false e.line
    let after ← get
    let values ← names.mapM fun name => (Run.refresh (after.lookup h.data name) : Run Value)
    modify fun s => { s with discarding := before.discarding }
    return values

namespace Stmt

mutual

/-- Runs a statement; the result is what it writes. -/
def exec (h : Host) : Stmt → Exec Text
  | data text => Exec.write text
  | emit e => do Exec.writeValue (← Exec.eval h e)
  | ifElse test yes no => do
    if (← Exec.eval h test).isTrue then execAll h yes else execAll h no
  | forEach target e condition recursive body otherwise => do
    match Rounds.of? (← Exec.eval h e) with
    | none => Exec.fail .invalidOperation e.line
    | some rounds =>
      let selected ← selectRounds h target condition rounds
      if selected.items.isEmpty then execAll h otherwise
      else
        let code := if recursive then some ⟨target, e.line, body⟩ else none
        runRounds h target code selected (execAll h body)
  | set target e => do
    let v ← Exec.eval h e
    target.assign h v
    return []
  | setBlock target filters body => do
    let v ← filtered h (← Exec.capture (execAll h body)) filters
    target.assign h v
    return []
  | withVars assignments body => Exec.inFrame .empty do
    assignments.forM fun (target, e) => do
      let v ← Exec.eval h e
      target.assign h v
    execAll h body
  | autoescape enabled body => do
    match escapingOf? (← Exec.eval h enabled) with
    | some on => do
      let before := (← get).escaping
      modify fun s => { s with escaping := on }
      let text ← execAll h body
      modify fun s => { s with escaping := before }
      return text
    | none => Exec.fail .invalidOperation enabled.line
  | filterBlock filters body => do
    Exec.writeValue (← filtered h (← Exec.capture (execAll h body)) filters)
  | block name _ _ _ => do
    let s ← get
    if s.parent.isSome || s.discarding then return []
    else
      match s.block? name with
      | some b => b.run h
      | none => Run.fail .invalidOperation
  | doCall e => do
    let _ ← Exec.eval h e
    return []
  | extendsFrom e => do extendFrom h (← Exec.eval h e) e.line
  | includeFrom e ignoreMissing => do includeFirst h (← Exec.eval h e) ignoreMissing e.line
  | importAs e target => do
    let v ← importModule h e
    match target.target? with
    | some target => do
      target.assign h v
      return []
    | none => Exec.fail .invalidOperation target.line
  | importNames e names => do
    let values ← importValues h e (names.map Prod.fst)
    (values.zip names).reverse.forM fun (v, name, newName) =>
      modify (Scope.set (newName.getD name) v)
    return []
  | macroDef name parameters defaults body => do
    let v ← Macro.define ⟨name, parameters, defaults, body⟩
    modify (Scope.set name v)
    return []
  | callBlock e parameters defaults body => do
    let v ← Macro.define ⟨Macro.callerName, parameters, defaults, body⟩
    Exec.writeValue (← e.evalCall h (← get) [(.named Macro.callerName, v)])
termination_by structural s => s

/-- Runs statements one after the other and joins what they write. -/
def execAll (h : Host) : List Stmt → Exec Text
  | [] => return []
  | s :: more => do
    let text ← exec h s
    return text ++ (← execAll h more)
termination_by structural ss => ss

end

/-- Runs the body that has been extended, if one has. -/
def runParent (h : Host) (discarding : Bool) : Exec Text := do
  match (← get).parent with
  | none => return []
  | some body => do
    modify fun s => { s with discarding }
    h.run (.body body)

/-- Runs a whole body, and behind it the one that it extends. -/
def runBody (h : Host) (ss : List Stmt) : Exec Text := do
  let before ← get
  modify fun s => { s with parent := none }
  let text ← execAll h ss
  let rest ← runParent h before.discarding
  modify fun s => { s with parent := before.parent }
  return text ++ rest

end Stmt

/-! ## Jumps -/

namespace Macro

/-- The parameters from the last to the first, each with its value and its default. -/
def bindings (code : Macro) (values : List Value) : List (Text × Value × Option Expr) :=
  (code.parameters.zip values).reverse.zipIdx.map fun ((name, v), i) =>
    (name, v, code.defaults.reverse[i]?)

/-- The value of a parameter, which is its default if it is given none. -/
def givenOr (h : Host) (v : Value) : Option Expr → Exec Value
  | some e => if v.isUndefined then Exec.eval h e else return v
  | none => return v

/-- Sets parameters, each to the value it is given or its default. -/
def setParameters (h : Host) : List (Text × Value × Option Expr) → Exec Unit
  | [] => return ()
  | (name, v, default) :: more => do
    modify (Scope.set name (← givenOr h v default))
    setParameters h more

end Macro

/-- Runs a jump. -/
def Jump.exec (h : Host) : Jump → Exec Text
  | body ss => Stmt.runBody h ss
  | rounds loop items =>
    match Rounds.of? items with
    | none => Exec.fail .invalidOperation loop.line
    | some r => runRounds h loop.target (some loop) r (Stmt.execAll h loop.body)
  | routine code values => do
    Macro.setParameters h (code.bindings values)
    Stmt.execAll h code.body

/-- The host whose jumps are run, up to so many levels. -/
def Host.of (library : Library) (invoker : Invoker) (data : Value) : (levels : Nat) → Host
  | 0 => ⟨invoker, library, data, fun _ => Run.fail .invalidOperation⟩
  | levels + 1 => ⟨invoker, library, data, fun j => j.exec (Host.of library invoker data levels)⟩

namespace Host

variable (library : Library) (invoker : Invoker) (data : Value)

@[simp] theorem of_library (levels : Nat) : (of library invoker data levels).library = library := by
  cases levels <;> rfl

@[simp] theorem of_invoker (levels : Nat) : (of library invoker data levels).invoker = invoker := by
  cases levels <;> rfl

@[simp] theorem of_data (levels : Nat) : (of library invoker data levels).data = data := by
  cases levels <;> rfl

end Host

/-- How many levels of jumps there can be: each opens a frame, or goes on with the parent of a
template, of which there are no more than templates in the library. -/
def Library.levels (library : Library) : Nat := (recursionLimit + 1) * (library.size + 2)

/-- Renders the statements of a template of a library with data; values are escaped. -/
def render (library : Library) (invoker : Invoker) (name : Text) (body : List Stmt)
    (data : Value) : Run Text := Run.toEnd do
  let h := Host.of library invoker data library.levels
  let (text, _) ← (Stmt.runBody h body).run (.start name (Stmt.allBlocks body))
  return text

end Componentry.Template
