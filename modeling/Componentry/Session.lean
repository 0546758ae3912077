import Componentry.Namespace

/-!
# Sessions

A session builds a namespace step by step.  Once the namespace is sealed, the
sealed copy is what everything runs on, and it stays the first one; templates that
are added later are seen only after the base is dropped.
-/

namespace Componentry

open Template

/-- A namespace under construction and the base of its invocations. -/
structure Session where
  base : Base
  building : Namespace

namespace Session

/-- The session at its start. -/
def start : Session := ⟨.unfinished, .empty⟩

/-- Adds a template to the namespace under construction. -/
def add (s : Session) (name source : Text) : Except Template.Fault Session :=
  (s.building.add name source).map fun ns => { s with building := ns }

/-- Seals the namespace, unless a sealed one is there already or has been
dropped. -/
def sealBase (s : Session) : Session := { s with base := s.base.finish s.building }

/-- The events that sealing reports. -/
def sealEvents (s : Session) : List LogEvent :=
  match s.base with
  | .finished _ => [⟨.warning, "base namespace already sealed, keeping the first".toList, []⟩]
  | _ => []

/-- Drops the base. -/
def drop (s : Session) : Session := { s with base := .dropped }

/-- The namespace to run on: the sealed one, or else the one under
construction. -/
def current (s : Session) : Namespace :=
  match s.base with
  | .finished ns => ns
  | _ => s.building

/-- Renders a template with data. -/
def render (s : Session) (name : Text) (data : Value) : Run Text := s.base.render s.current name data

/-- Runs a template as an invocation. -/
def partialRun (s : Session) (name : Text) (props : Value) : Run Text :=
  s.base.partialRun s.current name props

/-- The value of an expression with data. -/
def eval (s : Session) (source : Text) (data : Value) : Run Value := s.base.eval source data

end Session

end Componentry
