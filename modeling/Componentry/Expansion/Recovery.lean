import Componentry.Expansion.Basic
import Componentry.Template.Parser.Statement

/-!
# Recoveries

Sources may be faulty without stopping the work.  A tag that is never closed
stays in the text as markup, and a definition that does not parse after its
invocations are expanded is kept verbatim.  Both are recorded as recoveries.
-/

namespace Componentry

/-- A template that does not parse. -/
structure StructuralFault where
  /-- The name of the template. -/
  name : Text
  fault : Template.Fault
deriving DecidableEq, Repr

/-- The wording of a template's fault. -/
def StructuralFault.message (f : StructuralFault) : Text :=
  '`' :: f.name ++ "` does not parse: ".toList ++ f.fault.kind.message.toList

/-- The fault of a named template, if it does not parse. -/
def Template.fault? (name source : Text) : Option StructuralFault :=
  (Template.check source).map fun fault => ⟨name, fault⟩

/-- What was done about faulty sources. -/
inductive Recovery where
  /-- A tag without its end was left as markup. -/
  | unmatched (tag : UnmatchedTag)
  /-- A definition was kept verbatim, because it or one of its slots does not
  parse. -/
  | kept (definition : Text) (fault : StructuralFault)
deriving DecidableEq, Repr

namespace Recovery

/-- The line of a definition's fault, if it is its own and not one of its
slots'. -/
def line? : Recovery → Option Nat
  | unmatched _ => none
  | kept definition fault => if fault.name = definition then fault.fault.line else none

/-- The wording of a recovery. -/
def message : Recovery → Text
  | unmatched tag =>
    "unclosed <".toList ++ tag.name ++ "> at byte ".toList ++ Text.ofNat tag.offset ++
      ", left as literal markup".toList
  | kept definition fault =>
    "definition `".toList ++ definition ++
      "` kept verbatim after structural failure: ".toList ++ fault.message

end Recovery

end Componentry
