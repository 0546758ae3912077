import Componentry.Template.Failure
import Componentry.Template.Tree

/-!
# Arguments of calls

The values handed to a function, a filter or a test.  Named arguments travel
together as one map behind the positional ones, which is there as soon as a call
names any, or passes on a map of them that may be empty.  A parameter that takes a
text takes any value by its text, except for the map of named arguments.
-/

namespace Componentry.Template

/-- The arguments of a call. -/
structure Arguments where
  /-- The values, in order; the map of named arguments, if any, is the last. -/
  values : List Value
  /-- Whether the last value is the map of named arguments. -/
  named : Bool

namespace Arguments

/-- Positional arguments. -/
def ofValues (values : List Value) : Arguments := ⟨values, false⟩

/-- The entries that a named argument contributes. -/
def namedEntries : ArgumentKind × Value → Except Cause (List (Value × Value))
  | (.named name, v) => .ok [(.ofText name, v)]
  | (_, v) =>
    match v.pairs? with
    | some entries => .ok entries
    | none => .error .invalidOperation

/-- The values that a positional argument contributes. -/
def positionalValues : ArgumentKind × Value → Except Cause (List Value)
  | (.positionals, v) =>
    match v.items? with
    | some items => .ok items
    | none => .error .invalidOperation
  | (_, v) => .ok [v]

/-- The arguments of a call, out of the values of its positional arguments and of its
named ones.  Maps of named arguments are joined before lists of positional ones are
taken apart; a later entry of a name replaces an earlier one. -/
def collect (positional named : List (ArgumentKind × Value)) : Except Cause Arguments := do
  let entries ← named.mapM namedEntries
  let values ← positional.mapM positionalValues
  return if named.isEmpty then ⟨values.flatten, false⟩
    else ⟨values.flatten ++ [.ofEntries entries.flatten], true⟩

/-- Values that are all given by position are the arguments. -/
theorem collect_positional (values : List Value) :
    collect (values.map fun v => (.positional, v)) [] = .ok (.ofValues values) := by
  have hvalues : (values.map fun v => (ArgumentKind.positional, v)).mapM positionalValues =
      Except.ok (values.map fun v => [v]) := by
    induction values with
    | nil => rfl
    | cons v values ih =>
      rw [List.map_cons, List.mapM_cons, ih]
      rfl
  have hflatten : (values.map fun v => [v]).flatten = values := by
    rw [← List.flatMap_def]
    simp
  rw [collect, hvalues]
  show Except.ok (Arguments.mk (values.map fun v => [v]).flatten false) = _
  rw [hflatten]
  rfl

/-- The same arguments behind a first one. -/
def cons (v : Value) (args : Arguments) : Arguments := { args with values := v :: args.values }

/-- The value at a position; none behind the last. -/
def value? (args : Arguments) (i : Nat) : Option Value := args.values[i]?

/-- The value at a position, which must be there. -/
def value (args : Arguments) (i : Nat) : Except Cause Value :=
  match args.value? i with
  | some v => .ok v
  | none => .error .missingArgument

/-- The value at a position, unless it is missing there, undefined or none. -/
def optional (args : Arguments) (i : Nat) : Option Value :=
  (args.value? i).filter fun v => !v.isMissing

/-- Whether the map of named arguments stands at a position. -/
def isNamedAt (args : Arguments) (i : Nat) : Bool := args.named && args.values.length = i + 1

/-- The text at a position, which must be there. -/
def text (args : Arguments) (i : Nat) : Except Cause Text := do
  let v ← args.value i
  if args.isNamedAt i then .error .invalidOperation else .ok v.text

/-- The text at a position, unless it is missing there, undefined or none. -/
def optionalText (args : Arguments) (i : Nat) : Except Cause (Option Text) :=
  match args.optional i with
  | none => .ok none
  | some _ => (args.text i).map some

/-- A truth value that may be left out, undefined or none, and is false then. -/
def asFlag : Option Value → Except Cause Bool
  | none | some .undefined | some .none => .ok false
  | some (.bool b) => .ok b
  | some _ => .error .invalidOperation

/-- The truth value at the last position, or of a name, that may be left out.  No
other name may be given there. -/
def flag (args : Arguments) (i : Nat) (name : Text) : Except Cause Bool :=
  match (args.value? i).filter fun _ => args.isNamedAt i with
  | some named => do
    let b ← asFlag (named.member? name)
    if (named.entries?.getD []).all fun (k, _) => k.text = name then .ok b
    else .error .tooManyArguments
  | none => asFlag (args.value? i)

/-- The text at a position, where a string must be there. -/
def string (args : Arguments) (i : Nat) : Except Cause Text := do
  match (← args.value i).text? with
  | some s => .ok s
  | none => .error .invalidOperation

/-- The string at a position, unless it is missing there, undefined or none. -/
def optionalString (args : Arguments) (i : Nat) : Except Cause (Option Text) :=
  match args.optional i with
  | none => .ok none
  | some _ => (args.string i).map some

/-- A whole number at a position, unless it is missing there, undefined or none. -/
def whole? (args : Arguments) (i : Nat) : Except Cause (Option Int) :=
  match args.optional i with
  | none => .ok none
  | some v =>
    match v.int64? with
    | some n => .ok (some n)
    | none => .error .invalidOperation

/-- A whole number at a position that is not negative. -/
def count (args : Arguments) (i : Nat) : Except Cause Nat := do
  match (← args.value i).int64? with
  | some (.ofNat n) => .ok n
  | _ => .error .invalidOperation

/-- Refuses more than `n` arguments. -/
def atMost (args : Arguments) (n : Nat) : Except Cause Unit :=
  if n < args.values.length then .error .tooManyArguments else .ok ()

/-! ## Options -/

/-- The map of named arguments behind `i` others, which may have the given names only. -/
def options (args : Arguments) (i : Nat) (names : List Text) : Except Cause Value := do
  args.atMost (i + 1)
  match args.value? i with
  | none => .ok .undefined
  | some v =>
    if v.isUndefined then .ok v
    else if !args.isNamedAt i then .error .invalidOperation
    else if (v.entries?.getD []).all fun (k, _) => names.contains k.text then .ok v
    else .error .tooManyArguments

/-- A truth value among options. -/
def optionFlag (options : Value) (name : Text) : Except Cause Bool := asFlag (options.member? name)

/-- A string among options, unless it is left out, undefined or none. -/
def optionText (options : Value) (name : Text) : Except Cause (Option Text) :=
  match (options.member? name).filter fun v => !v.isMissing with
  | none => .ok none
  | some v =>
    match v.text? with
    | some s => .ok (some s)
    | none => .error .invalidOperation

end Arguments

end Componentry.Template
