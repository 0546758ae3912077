import Componentry.Attribute.Basic
import Componentry.Registry
import Componentry.Template.Exec
import Componentry.Template.Parser.Statement

/-!
# Namespaces and invocations

A **namespace** holds templates by name.  The sealed base of a project is one;
it never changes.  An invocation runs a definition in a copy of the base to which
the slot sources found in the props have been added, so that neither the caller's
additions nor those of other invocations are seen.

Invocations nest at most `Template.invocationLimit` deep: the number of levels
that are left is the argument on which `Base.invoke` recurses.
-/

namespace Componentry

/-- A template that has been parsed. -/
structure NamedTemplate where
  name : Text
  source : Text
  body : List Template.Stmt

/-- Templates by name. -/
structure Namespace where
  /-- The templates, each name once. -/
  templates : List NamedTemplate

namespace Namespace

/-- The namespace without templates. -/
def empty : Namespace := ⟨[]⟩

/-- The template of a name. -/
def find? (ns : Namespace) (name : Text) : Option NamedTemplate :=
  ns.templates.find? fun t => t.name = name

/-- Whether a name has a template. -/
def contains (ns : Namespace) (name : Text) : Bool := (ns.find? name).isSome

/-- Replaces the template of the same name, or adds one at the end. -/
def put (t : NamedTemplate) : List NamedTemplate → List NamedTemplate
  | [] => [t]
  | u :: more => if u.name = t.name then t :: more else u :: put t more

/-- Adds a template; a template of the same name is replaced. -/
def add (ns : Namespace) (name source : Text) : Except Template.Fault Namespace :=
  (Template.parse source).map fun body => ⟨put ⟨name, source, body⟩ ns.templates⟩

end Namespace

/-! ## Data and slots -/

/-- The variable that holds slot sources made from plain texts. -/
def slotsVar : Text := ['_', '_', 's', 'l', 'o', 't', 's']

namespace Template.Value

/-- The entries of a map or a record; none for all other values. -/
def entries (v : Value) : List (Value × Value) := v.entries?.getD []

/-- The data that a template sees: the entries with textual keys, and the whole
value as the context variable. -/
def scope (data : Value) : Value :=
  .ofNamed (data.entries.filterMap (fun (k, v) => k.text?.map fun name => (name, v)) ++
    [(Attribute.contextVar, data)])

/-- The source of a slot, if the value is one. -/
def source? : Value → Option Text
  | .deferred source => some source
  | _ => Option.none

/-- The slot sources among the entries of a value that are named like
components. -/
def slotSources (props : Value) : List (Text × Text) :=
  props.entries.filterMap fun (k, v) => do
    let name ← k.text?
    let source ← v.source?
    if isComponentName name then some (name, source) else Option.none

/-- All slot sources that props carry: their own, then those made from plain
texts. -/
def allSlotSources (props : Value) : List (Text × Text) :=
  props.slotSources ++ ((props.member? slotsVar).map slotSources).getD []

/-- Props whose texts that are named like components are slot sources as well.
The texts stay as they are. -/
def promote (props : Value) : Value :=
  let named := props.entries.map fun (k, v) => (k.keyText, v)
  let slots := named.filterMap fun (name, v) =>
    if isComponentName name then v.text?.map fun source => (name, Value.deferred source)
    else Option.none
  .ofNamed (named ++ if slots.isEmpty then [] else [(slotsVar, .ofNamed slots)])

end Template.Value

/-! ## Running definitions -/

open Template

namespace Namespace

/-- The event of a slot source that does not parse. -/
def notInstallable (name : Text) (fault : Template.Fault) : LogEvent :=
  ⟨.debug, "slot source not installable as a definition".toList,
    [("key", .text name), ("error", .text fault.kind.message.toList)]⟩

/-- Adds slot sources; those that do not parse are reported and left out. -/
def install (ns : Namespace) : List (Text × Text) → Run Namespace
  | [] => return ns
  | (name, source) :: more =>
    match ns.add name source with
    | .ok ns => ns.install more
    | .error fault => do
      Run.log (notInstallable name fault)
      ns.install more

theorem mem_of_find? {ns : Namespace} {name : Text} {t : NamedTemplate}
    (h : ns.find? name = some t) : t ∈ ns.templates ∧ t.name = name := by
  have hname := List.find?_some (p := fun u : NamedTemplate => u.name = name) h
  exact ⟨List.mem_of_find?_eq_some h, of_decide_eq_true hname⟩

/-- The templates as those that others can refer to. -/
def library (ns : Namespace) : Library where
  find? name := (ns.find? name).map NamedTemplate.body
  size := ns.templates.length
  bounded := by
    refine ⟨ns.templates.map NamedTemplate.name, List.length_map .., fun name h => ?_⟩
    rw [Option.isSome_map] at h
    obtain ⟨t, ht⟩ := Option.isSome_iff_exists.1 h
    obtain ⟨hmem, rfl⟩ := mem_of_find? ht
    exact List.mem_map_of_mem hmem

/-- Renders the template of a name with data. -/
def render (ns : Namespace) (invoker : Invoker) (name : Text) (data : Value) : Run Text :=
  match ns.find? name with
  | none => Run.fail .templateNotFound
  | some t => Template.render ns.library invoker name t.body data.scope

/-- Runs the template of a name in a copy of the namespace that holds the slot
sources of the props as well. -/
def partialRun (ns : Namespace) (invoker : Invoker) (name : Text) (props : Value) : Run Text := do
  let installed ← ns.install props.allSlotSources
  installed.render invoker name props

end Namespace

/-- What invocations run on. -/
inductive Base where
  /-- The finished namespace. -/
  | finished (ns : Namespace)
  /-- Not finished yet. -/
  | unfinished
  /-- No longer there. -/
  | dropped

namespace Base

/-- Finishes a base with a namespace.  Only the first time counts. -/
def finish (base : Base) (ns : Namespace) : Base :=
  match base with
  | unfinished => finished ns
  | base => base

/-- Runs an invocation with so many levels left. -/
def invoke (base : Base) : (levels : Nat) → Invoker
  | levels, name, props =>
    match base with
    | unfinished => Run.fail .notSealed
    | dropped => Run.fail .dropped
    | finished ns =>
      match levels with
      | 0 => Run.fail (.tooDeep name)
      | levels + 1 => ns.partialRun (invoke (finished ns) levels) name props

/-- Renders a template of a namespace whose invocations run on the base. -/
def render (base : Base) (ns : Namespace) (name : Text) (data : Value) : Run Text :=
  ns.render (base.invoke invocationLimit) name data

/-- Runs a template of a namespace as an invocation of its own. -/
def partialRun (base : Base) (ns : Namespace) (name : Text) (props : Value) : Run Text :=
  ns.partialRun (base.invoke (invocationLimit - 1)) name props

/-- The value of an expression whose invocations run on the base. -/
def eval (base : Base) (source : Text) (data : Value) : Run Value :=
  match Template.parseExpression source with
  | .ok e =>
    e.eval (.of .empty (base.invoke invocationLimit) data.scope Library.empty.levels) (.start [] [])
  | .error fault => throw ⟨.parse fault.kind, fault.line⟩

end Base

end Componentry
