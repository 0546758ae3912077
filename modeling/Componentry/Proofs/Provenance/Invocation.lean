import Componentry.Proofs.Compilation
import Componentry.Proofs.Provenance.Statements
import Componentry.Proofs.Template.Code

/-! # Request data is never parsed

The slot sources that invocations add to a copy of the base are the only sources
that are parsed while a project runs.  If the definitions of a project mention the
function that makes slot sources only in the entries that are written for slots, then
no other source is ever added, whatever the data
(`Compiled.render_parses_generated_only`).

This is said by comparing with runtimes that look at the slot sources of every
invocation before they are added (`Vetting`): one that does anything at all if it
sees a source that was not generated, and one that leaves such sources out.
-/
namespace Componentry

open Template

/-- What a runtime does with the slot sources of an invocation: it gives those that
are added. -/
abbrev Vetting := List (Text × Text) → Run (List (Text × Text))

namespace Vetting

/-- Adds all slot sources, but first calls a handler for every one that does not
pass a test. -/
def reporting (p : Text → Bool) (handler : Text → Text → Run Unit) : Vetting := fun sources => do
  sources.forM fun (name, source) => if p source then return () else handler name source
  return sources

/-- Adds the slot sources that pass a test, and ignores the others. -/
def ignoring (p : Text → Bool) : Vetting := fun sources =>
  return sources.filter fun (_, source) => p source

end Vetting

/-! ## Runtimes that vet slot sources -/

/-- Runs the template of a name in a copy of the namespace that holds the slot
sources of the props as far as they are let through. -/
def Namespace.partialVetted (vet : Vetting) (ns : Namespace) (invoker : Invoker) (name : Text)
    (props : Value) : Run Text := do
  let sources ← vet props.allSlotSources
  let installed ← ns.install sources
  installed.render invoker name props

/-- Runs an invocation on a namespace with so many levels left. -/
def Namespace.invokeVetted (vet : Vetting) (ns : Namespace) : (levels : Nat) → Invoker
  | 0, name, _ => Run.fail (.tooDeep name)
  | levels + 1, name, props => ns.partialVetted vet (invokeVetted vet ns levels) name props

/-- Renders a definition with data, where all invocations vet slot sources. -/
def Compiled.renderVetted (vet : Vetting) (c : Compiled) (name : Text) (data : Value) :
    Except RenderFault Text × List LogEvent :=
  if c.contains name then
    let (result, events) :=
      (c.globals.render (c.globals.invokeVetted vet invocationLimit) name data).result
    (result.mapError (.failed name), events)
  else (.error (.missing name), [])

variable {p : Text → Bool}

/-- All sources that pass the test are templates that are trusted. -/
def TrustsSources (p : Text → Bool) : Prop :=
  ∀ source, p source = true → ∀ body, Template.parse source = .ok body →
    Stmt.allOf (.trusted p) body = true

/-- **Vetting changes nothing for trusted props**, if it lets through sources that
pass the test. -/
theorem Namespace.coupled_invokeVetted {ns : Namespace} (hns : ns.Passes (.trusting p))
    (hp : TrustsSources p) {vet : Vetting}
    (hvet : ∀ sources, (∀ s ∈ sources, p s.2 = true) → vet sources = pure sources)
    (levels : Nat) : Invoker.Coupled (.trusting p) (ns.invokeVetted vet levels)
      ((Base.finished ns).invoke levels) := by
  induction levels with
  | zero => exact fun _ _ _ => .fail
  | succ levels ih =>
    intro name props hprops
    show Couple _ _ (ns.partialVetted vet _ name props) (ns.partialRun _ name props)
    rw [partialVetted, hvet _ hprops.allSlotSources, pure_bind]
    exact couple_partialRun (Setting.forSameData_trusting hp) hns ih name hprops

/-! ## Vettings that let sources through -/

namespace Vetting

theorem reporting_eq (handler : Text → Text → Run Unit) {sources : List (Text × Text)}
    (h : ∀ s ∈ sources, p s.2 = true) : reporting p handler sources = pure sources := by
  have hloop : (sources.forM fun (name, source) => if p source then return () else
      handler name source : Run Unit) = pure () := by
    induction sources with
    | nil => rfl
    | cons s sources ih =>
      obtain ⟨name, source⟩ := s
      rw [List.forall_mem_cons] at h
      simp only [List.forM, h.1, if_true]
      exact ih h.2
  rw [reporting, hloop]
  rfl

theorem ignoring_eq {sources : List (Text × Text)} (h : ∀ s ∈ sources, p s.2 = true) :
    ignoring p sources = pure sources := by
  have hall : sources.filter (fun s => p s.2) = sources := List.filter_eq_self.2 h
  exact congrArg pure hall

end Vetting

/-! ## Compiled projects -/

namespace Compiled

/-- The names of the definitions that are generated for slots while units are
expanded. -/
def slotNames (r : Registry) (units : List SourceUnit) : List Text :=
  units.flatMap fun u => (u.blocks r).flatMap ExpandedBlock.slotNames

/-- Whether a source is the invocation of a definition that was generated for a
slot. -/
def isGenerated (r : Registry) (units : List SourceUnit) (source : Text) : Bool :=
  (slotNames r units).any fun u => source = deferredInvocation u

/-- The sources that are generated for slots do nothing but to invoke a definition. -/
theorem parse_of_isGenerated {r : Registry} {units : List SourceUnit} {source : Text}
    (h : isGenerated r units source = true) :
    ∃ unit, Template.parse source = .ok [.emit (invokeExpr unit callerVar 1)] := by
  obtain ⟨unit, -, heq⟩ := List.any_eq_true.1 h
  rw [of_decide_eq_true heq]
  exact ⟨unit, parse_deferredInvocation unit⟩

theorem trustsSources_isGenerated (r : Registry) (units : List SourceUnit) :
    TrustsSources (isGenerated r units) := by
  intro source hsource body hbody
  obtain ⟨unit, hparse⟩ := parse_of_isGenerated hsource
  rw [hparse] at hbody
  cases hbody
  rfl

theorem renderVetted_eq {c : Compiled} (hbase : c.base = .finished c.globals)
    (hc : c.globals.Passes (.trusting p)) (hp : TrustsSources p)
    {vet : Vetting} (hvet : ∀ sources, (∀ s ∈ sources, p s.2 = true) → vet sources = pure sources)
    (name : Text) {data : Value} (hd : data.Trusted (Setting.trusting p).policy) :
    c.renderVetted vet name data = c.render name data := by
  have hrender : (c.globals.render (c.globals.invokeVetted vet invocationLimit) name data).result =
      (c.base.render c.globals name data).result := by
    rw [hbase]
    exact (Namespace.couple_render (Setting.forSameData_trusting hp) hc
      (Namespace.coupled_invokeVetted hc hp hvet invocationLimit) name hd).result_eq trivial
        fun _ _ h => h
  rw [renderVetted, hrender]
  rfl

/-- Whether the tokens of a definition mention the function that makes slot sources only
as the value of an entry, to call it with the invocation of a definition that was
generated for a slot. -/
def mentionsGenerated (r : Registry) (units : List SourceUnit) (d : Definition) : Bool :=
  mentionsOnly (isGenerated r units) ((lex d.body).lexemes.map Lexeme.token)

theorem all_addAll {good : List Stmt → Prop} {definitions : List Definition} {ns ns' : Namespace}
    (hns : ns.All good)
    (h : ∀ d ∈ definitions, ∀ body, Template.parse d.body = .ok body → good body)
    (hadd : addAll ns definitions = .ok ns') : ns'.All good := by
  induction definitions generalizing ns with
  | nil =>
    cases hadd
    exact hns
  | cons d definitions ih =>
    rw [List.forall_mem_cons] at h
    rw [addAll] at hadd
    split at hadd
    · rename_i hfirst
      exact ih (hns.add h.1 hfirst) h.2 hadd
    · cases hadd

/-- What holds of the templates that definitions parse to holds of all that a project of
the definitions runs. -/
theorem all_ofRegistry {good : List Stmt → Prop} {r : Registry} {units : List SourceUnit}
    {c : Compiled} (hc : ofRegistry r units = .ok c)
    (h : ∀ d ∈ definitions r units, ∀ body, Template.parse d.body = .ok body → good body) :
    c.globals.All good :=
  all_addAll .nil h (addAll_of_ofRegistry hc)

/-- **Request data is never parsed.**  Let the definitions of a project mention the
function that makes slot sources only in entries such as are written for slots: its
name stands nowhere else among their tokens.  Then the project compiles and, whatever
the data, no source but the invocation of a definition that was generated for a slot
is ever added to a copy of the base: rendering gives the same result, with the same
events, in a runtime that does anything at all when another source is to be added,
and in a runtime that ignores it. -/
theorem render_parses_generated_only (r : Registry) (units : List SourceUnit)
    (h : ∀ d ∈ definitions r units, mentionsGenerated r units d = true) :
    ∃ c, ofRegistry r units = .ok c ∧ ∀ (name : Text) (data : Json),
      (∀ handler, c.renderVetted (.reporting (isGenerated r units) handler) name (.ofJson data) =
          c.render name (.ofJson data)) ∧
        c.renderVetted (.ignoring (isGenerated r units)) name (.ofJson data) =
          c.render name (.ofJson data) := by
  obtain ⟨c, hc⟩ := ofRegistry_ok r units
  have hp := trustsSources_isGenerated r units
  have hns : c.globals.Passes (.trusting (isGenerated r units)) :=
    all_ofRegistry hc fun d hd body hbody => Stmt.allOf_of_mentionsOnly (h d hd) hbody
  refine ⟨c, hc, ?_⟩
  intro name data
  refine ⟨fun handler => ?_, ?_⟩
  · exact renderVetted_eq (base_of_ofRegistry hc) hns hp
      (fun _ hs => Vetting.reporting_eq handler hs) name (.ofJson data)
  · exact renderVetted_eq (base_of_ofRegistry hc) hns hp (fun _ hs => Vetting.ignoring_eq hs)
      name (.ofJson data)

/-- A component that places its slot, and a page whose slot holds data. -/
def boxed : List SourceUnit :=
  SourceUnit.ofSources [("Box.html".toList, "[{% slot %}]".toList),
    ("page.html".toList, "<Box>{{ evil }}</Box>".toList)]

set_option maxRecDepth 100000 in
theorem render_boxed_parses_generated_only :
    (∀ d ∈ definitions (.ofUnits boxed) boxed,
      mentionsGenerated (.ofUnits boxed) boxed d = true) ∧
    ∃ c, ofRegistry (.ofUnits boxed) boxed = .ok c ∧ ∀ (name : Text) (data : Json),
      (∀ handler, c.renderVetted (.reporting (isGenerated (.ofUnits boxed) boxed) handler) name
          (.ofJson data) = c.render name (.ofJson data)) ∧
        c.renderVetted (.ignoring (isGenerated (.ofUnits boxed) boxed)) name (.ofJson data) =
          c.render name (.ofJson data) := by
  have h : ∀ d ∈ definitions (.ofUnits boxed) boxed,
      mentionsGenerated (.ofUnits boxed) boxed d = true := by decide +kernel
  exact ⟨h, render_parses_generated_only (.ofUnits boxed) boxed h⟩

/-- A page in whose expression two slots without contents stand inside of a name: as
they are taken out, the name of the function that makes slot sources is left. -/
def spliced : List SourceUnit :=
  SourceUnit.ofSources [("Box.html".toList, "[{% slot %}]".toList),
    ("page.html".toList,
      ("<Box>\x7b<slot name=\"a\"></slot>\x7b invoke(\"Box\", dict(\"Slot\", " ++
        "defer<slot name=\"a\"></slot>red(evil))) \x7d\x7d</Box>").toList)]

/-- The result of rendering units, and that of a runtime that ignores slot sources
that were not generated. -/
def renderBoth (units : List SourceUnit) (name : Text) (data : Json) :
    Option (Option Text × Option Text) :=
  (ofUnits units).toOption.map fun c =>
    ((c.render name (.ofJson data)).1.toOption,
      (c.renderVetted (.ignoring (isGenerated (.ofUnits units) units)) name
        (.ofJson data)).1.toOption)

set_option maxRecDepth 100000 in
/-- **Sources that do not hold the name of the function can still call it**, and then
request data is parsed. -/
theorem spliced_parses_request_data :
    (∀ u ∈ spliced, Text.occurs deferredName u.raw = false) ∧
      renderBoth spliced "page".toList
          (.object [("evil".toList, .string "\x7b\x7b 6 * 7 \x7d\x7d".toList)]) =
        some (some "[[42]]".toList, some "[[]]".toList) := by
  decide +kernel

end Compiled

end Componentry
