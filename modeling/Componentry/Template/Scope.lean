import Componentry.Template.Function

/-!
# Scopes

What a statement finds and what it can change: the variables, set in the **frames** of loops
and other blocks, and where the template stands in relation to others, that is, the blocks
that replace those of its parents, and the parent that is to be run behind it.

A name means the variable of the innermost frame that has it; then what the data of the
template hold; then a function.  A macro is run in a scope of its own, where in place of the
data stands its **closure**.  A closure has the values of variables, and marks those names for
which the data stand in; the data never change.
-/

namespace Componentry.Template

/-- What a closure has under a name. -/
inductive Enclosed where
  | value (v : Value)
  /-- What the data of the template have. -/
  | data

/-- The variables that the macros of one frame take along. -/
structure Closure where
  number : Nat
  /-- The names; the first entry of a name counts. -/
  entries : List (Text × Enclosed)

/-- A loop that is running. -/
structure LoopFrame where
  /-- The variable `loop`, which a loop does not have that only selects its items. -/
  value : Option Value
  /-- How the loop is run for other items, if it may be. -/
  code : Option LoopCode
  /-- How many loops run around it, as far as they may be run for other items. -/
  depth : Nat

/-- What belongs to one block while it runs. -/
structure Frame where
  /-- The variables; a later one of the same name stands in front. -/
  vars : List (Text × Value)
  loop : Option LoopFrame
  /-- The closure of the macros that are defined there, which sees what is set later on. -/
  closure : Option Nat

/-- The frame with nothing in it. -/
def Frame.empty : Frame := ⟨[], none, none⟩

/-- A block as one template has it. -/
structure Layer where
  required : Bool
  line : Nat
  body : List Stmt

/-- The layers of a block, from the template that is rendered to the parents it extends. -/
structure BlockStack where
  name : Text
  layers : List Layer
  /-- Which layer is run. -/
  depth : Nat

/-- The variables in force, and the place among templates. -/
structure Scope where
  /-- The frames, innermost first. -/
  frames : List Frame
  /-- The closure that stands in place of the data, in a macro. -/
  closure : Option Nat
  closures : List Closure
  /-- Whether values are escaped when they are written. -/
  escaping : Bool
  blocks : List BlockStack
  /-- The block that runs. -/
  block : Option Text
  /-- The names of the templates that have been extended, and of the first. -/
  loaded : List Text
  /-- The template that is run behind the one at hand. -/
  parent : Option (List Stmt)
  /-- Whether what is written is dropped. -/
  discarding : Bool
  /-- How deep the frames outside of this scope nest. -/
  depth : Nat

/-- What a name means in a scope. -/
inductive Sight where
  /-- A variable. -/
  | value (v : Value)
  /-- What the data have; undefined otherwise, if the name has been taken along. -/
  | data (enclosed : Bool)
  /-- At most a function. -/
  | nothing

namespace Frame

/-- The value of a variable in a frame. -/
def lookup? (name : Text) (f : Frame) : Option Value :=
  ((f.vars.find? fun (n, _) => n = name).map Prod.snd).or
    (if name = Keyword.kLoop.text then f.loop.bind LoopFrame.value else none)

end Frame

namespace Scope

/-- The scope at the start of a template. -/
def start (name : Text) (blocks : List BlockStack) : Scope :=
  ⟨[.empty], none, [], true, blocks, none, [name], none, false, 0⟩

/-- What a closure has under a name. -/
def enclosed? (s : Scope) (number : Nat) (name : Text) : Option Enclosed :=
  (s.closures.find? fun c => c.number = number).bind fun c =>
    (c.entries.find? fun (n, _) => n = name).map Prod.snd

/-- What a name means. -/
def sight (s : Scope) (name : Text) : Sight :=
  match s.frames.findSome? (Frame.lookup? name) with
  | some v => .value v
  | none =>
    match s.closure with
    | none => .data false
    | some number =>
      match s.enclosed? number name with
      | some (.value v) => .value v
      | some .data => .data true
      | none => .nothing

/-- What the data have under a name, or else the function of the name. -/
def inData? (data : Value) (name : Text) : Option Value :=
  (data.member? name).or ((Function.named? name).map .function)

/-- The value of a name, if it has one. -/
def lookup? (data : Value) (s : Scope) (name : Text) : Option Value :=
  match s.sight name with
  | .value v => some v
  | .data enclosed => (inData? data name).or (if enclosed then some .undefined else none)
  | .nothing => (Function.named? name).map .function

/-- The value of a name, which is undefined if it has none. -/
def lookup (data : Value) (s : Scope) (name : Text) : Value :=
  (s.lookup? data name).getD .undefined

/-! ## Variables -/

/-- Gives a name an entry in a closure. -/
def encloseEntry (number : Nat) (name : Text) (e : Enclosed) (s : Scope) : Scope :=
  { s with closures := s.closures.map fun c =>
      if c.number = number then { c with entries := (name, e) :: c.entries } else c }

/-- Changes the innermost frame. -/
def modifyFrame (f : Frame → Frame) (s : Scope) : Scope :=
  match s.frames with
  | [] => { s with frames := [f .empty] }
  | frame :: more => { s with frames := f frame :: more }

/-- The closure of the innermost frame. -/
def frameClosure? (s : Scope) : Option Nat := s.frames.head?.bind Frame.closure

/-- Sets a variable in the innermost frame, and for the macros that are defined there. -/
def set (name : Text) (v : Value) (s : Scope) : Scope :=
  let s := s.modifyFrame fun f => { f with vars := (name, v) :: f.vars }
  match s.frameClosure? with
  | some number => s.encloseEntry number name (.value v)
  | none => s

/-- Sets the variable `loop` of the innermost loop. -/
def setLoop (v : Value) (s : Scope) : Scope :=
  s.modifyFrame fun f => { f with loop := f.loop.map fun l => { l with value := some v } }

/-- Opens a frame. -/
def push (frame : Frame) (s : Scope) : Scope := { s with frames := frame :: s.frames }

/-- Closes the innermost frame. -/
def pop (s : Scope) : Scope := { s with frames := s.frames.tail }

/-- How deep the frames nest. -/
def nesting (s : Scope) : Nat := s.depth + s.frames.length

/-- The innermost loop that runs. -/
def innermostLoop? (s : Scope) : Option LoopFrame := s.frames.findSome? Frame.loop

/-- How many loops run around the next one, as far as they may be run for other items. -/
def loopDepth (s : Scope) : Nat :=
  match s.innermostLoop? with
  | some l => if l.code.isSome then l.depth + 1 else 0
  | none => 0

/-- The variables that the innermost frame holds. -/
def frameVars (s : Scope) : List (Text × Value) := (s.frames.head?.map Frame.vars).getD []

/-- All variables of the frames, a later one of a name behind an earlier. -/
def allVars (s : Scope) : List (Text × Value) :=
  (s.frames.flatMap Frame.vars).reverse

/-! ## Closures -/

/-- What a closure takes along of a name: nothing of a function. -/
def taken? (s : Scope) (name : Text) : Option Enclosed :=
  match s.sight name with
  | .value v => some (.value v)
  | .data _ => some .data
  | .nothing => if (Function.named? name).isSome then none else some (.value .undefined)

/-- Takes a name along into a closure, unless the closure has it. -/
def enclose (number : Nat) (s : Scope) (name : Text) : Scope :=
  if (s.enclosed? number name).isSome then s
  else
    match s.taken? name with
    | some e => s.encloseEntry number name e
    | none => s

/-- Adds a closure. -/
def addClosure (number : Nat) (s : Scope) : Scope :=
  { s with closures := ⟨number, []⟩ :: s.closures }

/-- Whether a closure belongs to the run of the template. -/
def hasClosure (s : Scope) (number : Nat) : Bool := s.closures.any fun c => c.number = number

/-! ## Other scopes -/

/-- The scope that a macro starts in, with the body of the call if it uses one. -/
def inMacro (closure : Nat) (caller : Option Value) (s : Scope) : Scope :=
  { s with
    frames := [{ Frame.empty with vars := (caller.map fun v => (Macro.callerName, v)).toList }]
    closure := some closure
    blocks := []
    block := none
    loaded := []
    parent := none
    discarding := false
    depth := s.nesting + 4 }

/-- The block of a name. -/
def block? (s : Scope) (name : Text) : Option BlockStack := s.blocks.find? fun b => b.name = name

/-- Replaces the block of the same name. -/
def setBlock (b : BlockStack) (s : Scope) : Scope :=
  { s with blocks := s.blocks.map fun c => if c.name = b.name then b else c }

end Scope

namespace Stmt

mutual

/-- The blocks that stand in a statement. -/
def blocks : Stmt → List BlockStack
  | block name required line body => ⟨name, [⟨required, line, body⟩], 0⟩ :: allBlocks body
  | ifElse _ yes no => allBlocks yes ++ allBlocks no
  | forEach _ _ _ _ body otherwise => allBlocks body ++ allBlocks otherwise
  | setBlock _ _ body | withVars _ body | autoescape _ body | filterBlock _ body => allBlocks body
  | _ => []
termination_by structural s => s

/-- The blocks that stand in statements. -/
def allBlocks : List Stmt → List BlockStack
  | [] => []
  | s :: more => blocks s ++ allBlocks more
termination_by structural ss => ss

end

end Stmt

namespace Scope

/-- Puts the layers of a parent's block under those that are there. -/
def addLayers (b : BlockStack) : List BlockStack → List BlockStack
  | [] => [b]
  | c :: more =>
    if c.name = b.name then { c with layers := c.layers ++ b.layers } :: more
    else c :: addLayers b more

/-- The scope behind an extension, whose parent is yet to be run. -/
def extend (name : Text) (body : List Stmt) (s : Scope) : Scope :=
  { s with
    blocks := (Stmt.allBlocks body).foldl (fun blocks b => addLayers b blocks) s.blocks
    loaded := name :: s.loaded
    parent := some body
    discarding := true }

end Scope

end Componentry.Template
