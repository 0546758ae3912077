import Componentry.Proofs.MacroExpansion.Environments
import Componentry.Proofs.MacroExpansion.Project

/-! # One level of running and of expanding

What fragments write (`Writes`) is what expansion makes of their markup, as far as
one level goes (`writes_expandWith`): the fragments are evaluated one by one, what is
handed to an invocation stands for the environment that expansion makes for a tag,
and a placeholder invokes a label exactly if the environment gives the slot.
-/
namespace Componentry

open Template Run

/-! ## What fragments write -/

/-- Fragments write a text in a scope. -/
inductive Writes (host : Host) (scope : Scope) : List Fragment → Text → Prop where
  | nil : Writes host scope [] []
  | text {s : Text} {more : List Fragment} {out : Text} (hmore : Writes host scope more out) :
    Writes host scope (.text s :: more) (s ++ out)
  | value {f : Fragment} {e : Expr} {v : Value} {more : List Fragment} {out : Text}
    (hf : f.value? = some e) (hv : (e.eval host scope).Gives v)
    (hmore : Writes host scope more out) :
    Writes host scope (f :: more) (v.markup ++ out)

variable {host : Host} {scope : Scope} {invoker : Invoker}

theorem Writes.append {fragments more : List Fragment} {out out' : Text}
    (h : Writes host scope fragments out) (h' : Writes host scope more out') :
    Writes host scope (fragments ++ more) (out ++ out') := by
  induction h with
  | nil => exact h'
  | text _ ih =>
    rw [List.cons_append, List.append_assoc]
    exact .text ih
  | value hf hv _ ih =>
    rw [List.cons_append, List.append_assoc]
    exact .value hf hv ih

/-- The statements of fragments write what the fragments do, behind the text that is
pending. -/
theorem Writes.gives_statements {fragments : List Fragment} {out : Text}
    (h : Writes host scope fragments out) (hscope : scope.Shows) :
    ∀ pending : Text, Run.Gives
      ((Stmt.execAll host (Fragment.statements pending fragments)).run scope)
      (pending ++ out, scope) := by
  induction h with
  | nil =>
    intro pending
    have hnil : Run.Gives ((Stmt.execAll host []).run scope) ([], scope) := .pure _
    have hdata := gives_dataStmts hscope pending hnil
    rwa [List.append_nil (dataStmts pending)] at hdata
  | @text s more out _ ih =>
    intro pending
    rw [Fragment.statements, ← List.append_assoc]
    exact ih (pending ++ s)
  | value hf hv _ ih =>
    intro pending
    rw [Fragment.statements, hf]
    exact gives_dataStmts hscope pending (gives_emit hscope hv (ih []))

/-- Fragments write a text at the start of every template that runs with the data. -/
def Shows (invoker : Invoker) (data : Value) (fragments : List Fragment) (out : Text) : Prop :=
  ∀ host : Host, host.invoker = invoker → host.data = data →
    ∀ name blocks, Writes host (.start name blocks) fragments out

/-- Rendering the statements of fragments. -/
theorem Shows.gives_render {fragments : List Fragment} {data : Value} {out : Text}
    (h : Shows invoker data fragments out) (library : Library) (name : Text) :
    (Template.render library invoker name (Fragment.statements [] fragments) data).Gives out :=
  Template.gives_render fun host hinvoker hdata =>
    (h host hinvoker hdata name _).gives_statements (Scope.shows_start ..) []

/-! ## Props of tags -/

section

variable {data : Value} {attributes : List (Text × Operand)} {slots : List (Text × Text)}

/-- What the entries for slots stand for. -/
theorem gives_slotExprs
    (hdeferred : slots ≠ [] → scope.lookup? host.data deferredName = some (.function .deferred))
    (hcontext : scope.lookup host.data Attribute.contextVar = data) :
    ∃ entries : List (Text × Expr × Value),
      Fragment.slotExprs slots = entries.map (fun e => (e.1, e.2.1)) ∧
      slotValues slots data = entries.map (fun e => (e.1, e.2.2)) ∧
      ∀ e ∈ entries, (e.2.1.eval host scope).Gives e.2.2 := by
  unfold Fragment.slotExprs slotValues
  split
  · exact ⟨[], rfl, rfl, by simp⟩
  · rename_i hslots
    refine ⟨slots.map (fun slot => (slot.1, deferredExpr (deferredInvocation slot.2) 1,
        .deferred (deferredInvocation slot.2))) ++
      [(callerVar, .var Attribute.contextVar 1, data)], ?_, ?_, ?_⟩
    · simp
    · simp
    · intro e he
      rcases List.mem_append.1 he with he | he
      · obtain ⟨slot, -, rfl⟩ := List.mem_map.1 he
        exact gives_deferred (hdeferred (by simpa using hslots)) _ 1
      · rw [List.mem_singleton.1 he, Expr.eval, hcontext]
        exact .refresh data

/-- **A tag invokes its component** with the values of its attributes and with its slots,
where the functions that its call is made of have their meaning. -/
theorem gives_tagCall {env : Environment} (name : Text)
    (hinvoke : scope.lookup? host.data invokeName = some (.function .invoke))
    (hdict : scope.lookup? host.data Props.dictName = some (.function .dict))
    (hdeferred : slots ≠ [] → scope.lookup? host.data deferredName = some (.function .deferred))
    (hcontext : scope.lookup host.data Attribute.contextVar = data)
    (hattributes : ∀ a ∈ attributes, (a.2.expr.eval host scope).Gives (env.operand a.2))
    {out : Text}
    (hrun : (Function.contained name (host.invoker name
      (.ofNamed (env.attributes attributes ++ slotValues slots data)))).Gives (.ofMarkup out)) :
    ∃ e, (Fragment.tag name attributes slots).value? = some e ∧
      (e.eval host scope).Gives (.ofMarkup out) := by
  obtain ⟨entries, hexprs, hvalues, hgives⟩ := gives_slotExprs hdeferred hcontext
  let props := attributes.map (fun a => (a.1, a.2.expr, env.operand a.2)) ++ entries
  have hprops : ∀ e ∈ props, (e.2.1.eval host scope).Gives e.2.2 := by
    intro e he
    rcases List.mem_append.1 he with he | he
    · obtain ⟨a, ha, rfl⟩ := List.mem_map.1 he
      exact hattributes a ha
    · exact hgives e he
  have hmap := gives_dict hdict hprops 1
  rw [List.map_append, List.map_append, List.map_map, List.map_map, ← hexprs, ← hvalues] at hmap
  exact ⟨_, rfl, gives_invoke hinvoke name hmap (Value.isMissing_ofNamed _) hrun 1⟩

end

section

variable {names : List Text} {units : List (Text × List Fragment)} {env : Environment}
  {slots : List HeldSlot} {caller : Value}

theorem isSafe_value {values : List (Text × Value)} (h : AreVariables values) (x : Text) :
    ((Value.last? x values).getD .undefined).isSafe = false := by
  cases hx : Value.last? x values with
  | none => rfl
  | some v => exact (h _ (Value.mem_of_last? hx)).2

theorem areVariables_attributes (h : AreVariables env.values) {attributes : List (Text × Operand)}
    (hattributes : attributes.all Operand.isPlain = true) :
    AreVariables (env.attributes attributes) := by
  intro e he
  obtain ⟨⟨key, value⟩, ha, rfl⟩ := List.mem_map.1 he
  have hplain := List.all_eq_true.1 hattributes _ ha
  cases value with
  | text v =>
    simp only [Operand.isPlain, Bool.and_eq_true] at hplain
    exact ⟨hplain.1, rfl⟩
  | var x =>
    simp only [Operand.isPlain, Bool.and_eq_true] at hplain
    exact ⟨hplain.1, isSafe_value h x⟩

variable (template : Text) (blocks : List BlockStack)

section

variable (h : IsLaidOut names units env slots caller)
  (hdata : host.data = (Value.ofNamed (layout env slots caller)).scope)

include h hdata

theorem gives_variable {x : Text} (hx : isVariable x = true) :
    ((Expr.var x 1).eval host (.start template blocks)).Gives (env.value x) := by
  rw [Expr.eval, hdata, h.lookup_variable hx]
  exact .refresh _

theorem gives_operand {a : Text × Operand} (ha : Operand.isPlain a = true) :
    (a.2.expr.eval host (.start template blocks)).Gives (env.operand a.2) := by
  obtain ⟨key, value⟩ := a
  cases value with
  | text v => exact .pure _
  | var x =>
    simp only [Operand.isPlain, Bool.and_eq_true] at ha
    exact gives_variable template blocks h hdata ha.2

/-! ## One level -/

theorem lookup?_function {name : Text} {f : Function} (hf : Function.named? name = some f)
    (hname : isReserved name = true) (hcaller : name ≠ callerVar)
    (hcontext : name ≠ Attribute.contextVar) :
    (Scope.start template blocks).lookup? host.data name = some (.function f) := by
  rw [hdata]
  exact h.lookup?_function hf hname hcaller hcontext template blocks

/-- A tag invokes its component with the environment that expansion makes for it. -/
theorem gives_tag {name : Text} {attributes : List (Text × Operand)} {held : List HeldSlot}
    (hcaller : Represents names units env (.ofNamed (layout env slots caller)))
    (htag : isTagOf names name attributes = true) (hheld : AreHeld units held)
    (hslots : areSlotsOf name attributes (held.map HeldSlot.markup) = true)
    (hparts : ∀ slot ∈ held, ∀ part ∈ slot.parts, Translates names units part.1 part.2)
    {out : Text}
    (hrun : ∀ w, name ∈ names →
      (Environment.tag (env.attributes attributes) (held.map HeldSlot.markup) env).slot? name = none →
      Represents names units
        (.tag (env.attributes attributes) (held.map HeldSlot.markup) env) w →
      (Function.contained name (host.invoker name w)).Gives (.ofMarkup out)) :
    ∃ e, (Fragment.tag name attributes (held.map HeldSlot.entry)).value? = some e ∧
      (e.eval host (.start template blocks)).Gives (.ofMarkup out) := by
  have hattributes := isTagOf_attributes htag
  simp only [isTagOf, Bool.and_eq_true, List.contains_eq_mem, decide_eq_true_eq] at htag
  have hname : (Environment.tag (env.attributes attributes) (held.map HeldSlot.markup) env).slot?
      name = none := by
    simp only [areSlotsOf, Bool.and_eq_true, List.all_eq_true, bne_iff_ne] at hslots
    rw [Environment.slot?, Option.map_eq_none_iff, List.find?_eq_none]
    intro slot hslot heq
    exact (hslots.1 slot hslot).1 (of_decide_eq_true heq)
  refine gives_tagCall name
    (lookup?_function template blocks h hdata (by decide) (by decide) (by decide) (by decide))
    (lookup?_function template blocks h hdata (by decide) (by decide) (by decide) (by decide))
    (fun _ => lookup?_function template blocks h hdata (by decide) (by decide) (by decide) (by decide))
    (hdata ▸ lookup_contextVar _ template blocks)
    (fun a ha => gives_operand template blocks h hdata (List.all_eq_true.1 hattributes a ha)) ?_
  exact hrun _ htag.1.1 hname
    (.tag (areVariables_attributes h.values hattributes) hheld hparts hcaller)

/-- A placeholder runs the slot that the environment gives, if it gives one. -/
theorem gives_place {label : Text} (hlabel : isLabel label = true) {out : Text}
    (hgiven : (env.slot? label).isSome = true →
      (Function.contained label (host.invoker label (.ofNamed (layout env slots caller)))).Gives
        (.ofMarkup out))
    (hnone : env.slot? label = none → out = []) :
    ∃ v : Value, v.markup = out ∧
      ((Expr.ifElse (isGivenExpr label 1) (invokeExpr label Attribute.contextVar 1) none).eval
        host (.start template blocks)).Gives v := by
  have hcontext : (Memory.ofEvents []).seen ((Scope.start template blocks).lookup host.data
      Attribute.contextVar) = .ofNamed (layout env slots caller) :=
    hdata ▸ lookup_contextVar _ template blocks
  by_cases hslot : ∃ slot ∈ slots, slot.label = label
  · obtain ⟨slot, hslot, rfl⟩ := hslot
    obtain ⟨outer, houter, -⟩ := h.given slot hslot
    have hlast : Value.last? slot.label (layout env slots caller) =
        some (.deferred (deferredInvocation slot.unit)) := by
      rw [h.last?_label hlabel, last?_slot h.held caller hslot]
    refine ⟨.ofMarkup out, rfl, ?_⟩
    have hinvoke : (Scope.start template blocks).lookup? host.data invokeName =
        some (.function .invoke) :=
      lookup?_function template blocks h hdata (by decide) (by decide) (by decide) (by decide)
    exact gives_placeholder hinvoke hcontext hlast rfl (hgiven (by rw [houter]; rfl)) 1
  · have hother : ∀ slot ∈ slots, slot.label ≠ label := fun slot hmem heq =>
      hslot ⟨slot, hmem, heq⟩
    have hlast : Value.last? label (layout env slots caller) = none := by
      rw [h.last?_label hlabel, last?_noSlot caller hlabel hother]
    refine ⟨.undefined, (hnone (h.none label hother)).symm, ?_⟩
    exact gives_placeholder_none hcontext (by rw [hlast]; rfl) 1

end

end

variable {names : List Text} {units : List (Text × List Fragment)} {env : Environment} {v : Value}

/-- **One level of expansion**: fragments write the expansion of their markup, if
invocations give what is taken for tags and places. -/
theorem writes_expandWith {tag : Text → Environment → Text} {place : Text → Text}
    (henv : Represents names units env v)
    (htag : ∀ name inner w, name ∈ names → inner.slot? name = none →
      Represents names units inner w →
      (Function.contained name (invoker name w)).Gives (.ofMarkup (tag name inner)))
    (hplace : ∀ label, (env.slot? label).isSome = true →
      (Function.contained label (invoker label v)).Gives (.ofMarkup (place label)))
    (hnone : ∀ label, env.slot? label = none → place label = [])
    {m : Markup} {fragments : List Fragment} (h : Translates names units m fragments) :
    Shows invoker v.scope fragments (m.expandWith tag place env) := by
  obtain ⟨slots, caller, rfl, hlaid⟩ := henv.isLaidOut
  rintro host rfl hdata template blocks
  induction h with
  | nil => exact .nil
  | text _ _ _ ih => exact .text ih
  | @print x rest fragments hx _ ih =>
    have hwrite := Writes.value (f := .print x) rfl (gives_variable template blocks hlaid hdata hx) ih
    rwa [Value.markup, show (env.value x).isSafe = false from isSafe_value hlaid.values x] at hwrite
  | @place name rest fragments hname _ ih =>
    obtain ⟨w, hw, hgives⟩ := gives_place template blocks hlaid hdata (isLabel_markerLabel hname)
      (hplace (markerLabel name)) (hnone (markerLabel name))
    have hwrite := Writes.value (f := .place name) rfl hgives ih
    rwa [hw] at hwrite
  | single htagOf hslots _ ih =>
    have hheld : AreHeld units [] := ⟨by simp, by simp, by simp, by simp⟩
    obtain ⟨e, he, hgives⟩ := gives_tag template blocks hlaid hdata henv htagOf hheld hslots (by simp)
      (htag _ _)
    exact .value he hgives ih
  | paired htagOf hslots hcontents hheld hparts _ _ ih =>
    rw [hcontents] at hslots
    obtain ⟨e, he, hgives⟩ := gives_tag template blocks hlaid hdata henv htagOf hheld hslots hparts (htag _ _)
    rw [Markup.expandWith, hcontents]
    exact .value he hgives ih

end Componentry
