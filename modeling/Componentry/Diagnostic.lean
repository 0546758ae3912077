import Componentry.Expansion.Unit

/-!
# Diagnostics

Each unit is looked at on its own, so that a fault is reported with the place it
has in the unit.  Three things are reported: definitions that were kept verbatim,
a listing that does not split back into the unit's definitions, and definitions
that do not parse.
-/

namespace Componentry

/-- A fault in a source unit. -/
structure Diagnostic where
  /-- The logical name of the unit. -/
  unit : Text
  definition : Text
  /-- The line in the definition's body, counted from one, if it is known. -/
  line : Option Nat
  message : Text
  /-- The lines around the fault. -/
  excerpt : Text
deriving DecidableEq, Repr

namespace Diagnostic

/-- How many lines an excerpt shows before and after the marked one. -/
def contextLines : Nat := 2

/-- A number in at least four places. -/
def padded (n : Nat) : Text :=
  List.replicate (4 - (Text.ofNat n).length) ' ' ++ Text.ofNat n

/-- One line of an excerpt. -/
def excerptLine (marked : Nat) (text : Text) (n : Nat) : Text :=
  (if n = marked then '▶' else ' ') :: ' ' :: padded n ++ " | ".toList ++ text

/-- The lines around a line of a text, which is marked.  Lines count from one. -/
def excerptAt (text : Text) (line : Nat) : Text :=
  let lines := Text.lines text
  if line = 0 || lines.length < line then []
  else
    let first := max (line - contextLines) 1
    let shown := (lines.drop (first - 1)).take (line + contextLines + 1 - first)
    Text.join ['\n'] ((shown.zipIdx first).map fun (text, n) => excerptLine line text n)

/-- The diagnostic of a fault in a body. -/
def ofFault (unit definition : Text) (line : Option Nat) (message body : Text) : Diagnostic :=
  ⟨unit, definition, line, message, (line.map (excerptAt body)).getD []⟩

/-- A body without the tag that opens a raw block in front of it. -/
def withoutRawTag (body : Text) : Text := (Text.dropPrefix? rawTag body).getD body

/-- The diagnostic of a definition that was kept verbatim.  The excerpt shows the
body of the unit's first definition of that name. -/
def ofRecovery? (unit : Text) (definitions : List Definition) (recovery : Recovery) :
    Option Diagnostic :=
  match recovery with
  | .unmatched _ => none
  | .kept name _ =>
    let body := ((definitions.find? fun d => d.name = name).map fun d => withoutRawTag d.body)
    some (ofFault unit name recovery.line? recovery.message (body.getD []))

/-- The diagnostic of a listing that does not split back. -/
def ofListing? (unit : Text) (expanded : ExpandedUnit) : Option Diagnostic :=
  match Definition.split expanded.listing with
  | .ok definitions =>
    if definitions = expanded.definitions then none
    else some (ofFault unit unit none "IR text does not split back into its definitions".toList [])
  | .error fault => some (ofFault unit unit none fault.report [])

/-- The diagnostic of a definition that does not parse. -/
def ofDefinition? (unit : Text) (d : Definition) : Option Diagnostic :=
  (Template.check d.body).map fun fault =>
    ofFault unit d.name fault.line fault.kind.message.toList d.body

/-- The diagnostics of a unit. -/
def ofUnit (r : Registry) (u : SourceUnit) : List Diagnostic :=
  let expanded := u.expand r
  expanded.recoveries.filterMap (ofRecovery? u.name expanded.definitions) ++
    (ofListing? u.name expanded).toList ++
    expanded.definitions.filterMap (ofDefinition? u.name)

/-- The diagnostics of units, in order. -/
def ofUnits (r : Registry) (units : List SourceUnit) : List Diagnostic := units.flatMap (ofUnit r)

/-- The text of a diagnostic: where and what, and then the excerpt. -/
def text (d : Diagnostic) : Text :=
  let place :=
    match d.line with
    | some n => d.unit ++ ':' :: Text.ofNat n
    | none => d.unit
  d.definition ++ " (".toList ++ place ++ "): ".toList ++ d.message ++
    (if d.excerpt.isEmpty then [] else '\n' :: d.excerpt)

end Diagnostic

end Componentry
