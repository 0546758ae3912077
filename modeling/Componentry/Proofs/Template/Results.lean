import Componentry.Proofs.Template.Code
import Componentry.Proofs.Template.Maps
import Componentry.Proofs.Template.Running

/-! # Results of generated code

What the expressions of generated code evaluate to (`Run.GivesIn`), where the functions
that they call have not been given another meaning by the data, and what statements
write that are text or such expressions.
-/
namespace Componentry.Template

open Run

variable {h : Host} {scope : Scope} {mem : Memory}

/-! ## Scopes at the start of a template -/

/-- Before anything is set, names mean what the data have, or functions. -/
theorem lookup?_start (data : Value) (name : Text) (blocks : List BlockStack) (x : Text) :
    (Scope.start name blocks).lookup? data x =
      (data.member? x).or ((Function.named? x).map .function) := by
  have hlookup : (Scope.start name blocks).lookup? data x = (Scope.inData? data x).or none := by
    by_cases hx : x = Keyword.kLoop.text <;>
      simp [Scope.lookup?, Scope.sight, Scope.start, Frame.empty, Frame.lookup?, hx]
  rw [hlookup, Option.or_none, Scope.inData?]

/-- The scope of a definition that runs with a map. -/
theorem lookup?_scope (entries : List (Text × Value)) (name : Text) (blocks : List BlockStack)
    (x : Text) :
    (Scope.start name blocks).lookup? (Value.ofNamed entries).scope x =
      (if x = Attribute.contextVar then some (.ofNamed entries)
        else Value.last? x entries).or ((Function.named? x).map .function) := by
  rw [lookup?_start, Value.member?_scope]

theorem lookup_contextVar (entries : List (Text × Value)) (name : Text)
    (blocks : List BlockStack) :
    (Scope.start name blocks).lookup (Value.ofNamed entries).scope Attribute.contextVar =
      .ofNamed entries := by
  rw [Scope.lookup, lookup?_scope, if_pos rfl]
  rfl

/-- A name that stands for a function is called as this function. -/
theorem callee?_of_lookup? {data : Value} {x : Text} {f : Function}
    (hf : scope.lookup? data x = some (.function f)) :
    scope.callee? data x = some (.function f) := by
  rw [Scope.lookup?] at hf
  rw [Scope.callee?]
  cases hsight : scope.sight x with
  | value v =>
    rw [hsight] at hf
    exact hf
  | data enclosed =>
    rw [hsight] at hf
    rcases Option.or_eq_some_iff.1 hf with hdata | ⟨-, hnone⟩
    · simp [hdata, Value.asCallee]
    · cases enclosed <;> simp at hnone
  | nothing =>
    rw [hsight] at hf
    exact hf

/-! ## Calls -/

theorem gives_arguments {args : List (Expr × Value)}
    (hargs : ∀ a ∈ args, (a.1.eval h scope).GivesIn mem a.2) :
    (Expr.evalArguments h scope false (args.map fun a => (.positional, a.1))).GivesIn mem
      (args.map fun a => (.positional, a.2)) := by
  induction args with
  | nil => exact .pure _
  | cons a args ih =>
    rw [List.forall_mem_cons] at hargs
    rw [List.map_cons, Expr.evalArguments, if_pos (by decide)]
    exact hargs.1.bind ((ih hargs.2).bind (.pure _))

theorem gives_noNamed (args : List (Expr × Value)) :
    (Expr.evalArguments h scope true (args.map fun a => (.positional, a.1))).GivesIn mem [] := by
  rw [Expr.evalArguments_named (List.forall_mem_map.2 fun _ _ => rfl)]
  exact .pure _

/-- A call of a function gives what the function gives for its arguments. -/
theorem gives_call {name : Text} {f : Function} (hsuper : name ≠ ['s', 'u', 'p', 'e', 'r'])
    (hloop : name ≠ Keyword.kLoop.text) (hf : scope.lookup? h.data name = some (.function f))
    {args : List (Expr × Value)}
    (hargs : ∀ a ∈ args, (a.1.eval h scope).GivesIn mem a.2) {v : Value}
    (hcall : (f.call h scope (.ofValues (args.map Prod.snd))).GivesIn mem v) (line : Nat) :
    ((Expr.call (.var name line) (args.map fun a => (.positional, a.1))).eval h scope).GivesIn mem
      v := by
  have hrun : (scope.call h name (.ofValues (args.map Prod.snd))).GivesIn mem v := by
    rw [Scope.call, if_neg hsuper, if_neg hloop, callee?_of_lookup? hf]
    exact hcall
  rw [Expr.eval]
  refine (GivesIn.pure (Callee.name name)).bind ?_
  refine (gives_arguments hargs).bind ((gives_noNamed args).bind (GivesIn.atLine ?_ _))
  have hcollect := Arguments.collect_positional (args.map Prod.snd)
  rw [List.map_map] at hcollect
  have harguments : (Run.ofExcept (Arguments.collect
      (args.map fun a => (ArgumentKind.positional, a.2)) [])).GivesIn mem
        (Arguments.ofValues (args.map Prod.snd)) := by
    rw [show (args.map fun a => (ArgumentKind.positional, a.2)) =
      args.map ((fun v => (ArgumentKind.positional, v)) ∘ Prod.snd) from rfl, hcollect]
    exact .pure _
  exact harguments.bind hrun

/-- The map of keys and values. -/
theorem gives_dict (hf : scope.lookup? h.data Props.dictName = some (.function .dict))
    {entries : List (Text × Expr × Value)}
    (hentries : ∀ e ∈ entries, (e.2.1.eval h scope).GivesIn mem e.2.2) (line : Nat) :
    ((dictExpr (entries.map fun e => (e.1, e.2.1)) line).eval h scope).GivesIn mem
      (.ofNamed (entries.map fun e => (e.1, e.2.2))) := by
  let args := entries.flatMap fun e =>
    [(Expr.const (.string e.1) line, Value.ofText e.1), (e.2.1, e.2.2)]
  have hargs : ∀ a ∈ args, (a.1.eval h scope).GivesIn mem a.2 := by
    intro a ha
    obtain ⟨e, he, ha⟩ := List.mem_flatMap.1 ha
    rcases List.mem_cons.1 ha with rfl | ha
    · exact .pure _
    · rw [List.mem_singleton.1 ha]
      exact hentries e he
  have hpairs : Function.pairs (args.map Prod.snd) = .ok (entries.map fun e => (e.1, e.2.2)) := by
    clear hargs hentries
    induction entries with
    | nil => rfl
    | cons e entries ih =>
      simp only [args, List.flatMap_cons, List.map_cons, List.cons_append, List.nil_append,
        Function.pairs] at ih ⊢
      rw [ih]
      rfl
  have hcall : (Function.dict.call h scope (.ofValues (args.map Prod.snd))).GivesIn mem
      (.ofNamed (entries.map fun e => (e.1, e.2.2))) := by
    rw [Function.call, Arguments.ofValues, Function.makeDict, hpairs]
    exact .pure _
  have hdict := gives_call (by decide) (by decide) hf hargs hcall line
  simpa [dictExpr, args, List.map_flatMap, List.flatMap_map] using hdict

/-- The source of a slot. -/
theorem gives_deferred (hf : scope.lookup? h.data deferredName = some (.function .deferred))
    (source : Text) (line : Nat) :
    ((deferredExpr source line).eval h scope).GivesIn mem (.deferred source) := by
  have hargs : ∀ a ∈ [(Expr.const (.string source) line, Value.ofText source)],
      (a.1.eval h scope).GivesIn mem a.2 := by
    intro a ha
    rw [List.mem_singleton.1 ha]
    exact .pure _
  exact gives_call (by decide) (by decide) hf hargs (.pure _) line

/-- What an invocation takes a value for: none counts as undefined. -/
def Value.asProps (v : Value) : Value := if v.isMissing then .undefined else v

theorem Value.asProps_of_isMissing {v : Value} (h : v.isMissing = false) : v.asProps = v := by
  rw [asProps, h, if_neg Bool.false_ne_true]

/-- An invocation gives what the definition gives, as markup. -/
theorem gives_invoke_asProps (hf : scope.lookup? h.data invokeName = some (.function .invoke))
    (name : Text) {e : Expr} {props : Value} (he : (e.eval h scope).GivesIn mem props) {v : Value}
    (hrun : (Function.contained name (h.invoker name props.asProps)).GivesIn mem v) (line : Nat) :
    ((Expr.call (.var invokeName line) [(.positional, .const (.string name) line),
      (.positional, e)]).eval h scope).GivesIn mem v := by
  have hargs : ∀ a ∈ [(Expr.const (.string name) line, Value.ofText name), (e, props)],
      (a.1.eval h scope).GivesIn mem a.2 := by
    simp only [List.forall_mem_cons]
    exact ⟨.pure _, he, by simp⟩
  have harguments : Function.invokeArguments (.ofValues [Value.ofText name, props]) =
      .ok (name, props.asProps) := by
    have hoptional : ((Arguments.ofValues [Value.ofText name, props]).optional 1).getD .undefined =
        props.asProps := by
      cases hmissing : props.isMissing <;>
        simp [Arguments.optional, Arguments.value?, Arguments.ofValues, Option.filter,
          Value.asProps, hmissing]
    have htext : (Arguments.ofValues [Value.ofText name, props]).text 0 = .ok name := rfl
    have hcount : (Arguments.ofValues [Value.ofText name, props]).atMost 2 = .ok () := rfl
    rw [Function.invokeArguments, htext, hoptional, hcount]
    rfl
  refine gives_call (by decide) (by decide) hf hargs ?_ line
  have hfound : (Run.ofExcept (Function.invokeArguments
      (.ofValues [Value.ofText name, props]))).GivesIn mem (name, props.asProps) := by
    rw [harguments]
    exact .pure _
  rw [Function.call]
  exact hfound.bind hrun

theorem gives_invoke (hf : scope.lookup? h.data invokeName = some (.function .invoke)) (name : Text)
    {e : Expr} {props : Value} (he : (e.eval h scope).GivesIn mem props)
    (hprops : props.isMissing = false) {v : Value}
    (hrun : (Function.contained name (h.invoker name props)).GivesIn mem v) (line : Nat) :
    ((Expr.call (.var invokeName line) [(.positional, .const (.string name) line),
      (.positional, e)]).eval h scope).GivesIn mem v := by
  rw [← Value.asProps_of_isMissing hprops] at hrun
  exact gives_invoke_asProps hf name he hrun line

/-! ## Placeholders -/

theorem Value.isMissing_ofNamed (entries : List (Text × Value)) :
    (Value.ofNamed entries).isMissing = false := by
  rw [Value.ofNamed_eq]
  rfl

theorem item_ofNamed (x : Text) (entries : List (Text × Value)) :
    (Value.ofNamed entries).item (.ofText x) = .ok ((Value.last? x entries).getD .undefined) := by
  have hitem : (Value.ofNamed entries).item? (.ofText x) = Value.last? x entries := by
    rw [← Value.member?_ofNamed, Value.ofNamed_eq]
    rfl
  rw [Value.item, hitem]
  cases Value.last? x entries with
  | none =>
    rw [Value.ofNamed_eq]
    rfl
  | some v => rfl

/-- Whether something is given for a label. -/
theorem gives_isGiven {entries : List (Text × Value)}
    (hcontext : mem.seen (scope.lookup h.data Attribute.contextVar) = .ofNamed entries)
    (label : Text) (line : Nat) :
    ((isGivenExpr label line).eval h scope).GivesIn mem
      (.bool !((Value.last? label entries).getD .undefined).isUndefined) := by
  have hitem : ((Expr.item (.var Attribute.contextVar line) (.const (.string label) line)).eval
      h scope).GivesIn mem ((Value.last? label entries).getD .undefined) := by
    rw [Expr.eval, Expr.eval, Expr.eval]
    refine (GivesIn.refresh _).bind ((GivesIn.pure _).bind (GivesIn.atLine ?_ _))
    rw [hcontext, show (Literal.string label).value = Value.ofText label from rfl, item_ofNamed]
    exact .pure _
  have htest : ∀ v : Value, (applyTest ['d', 'e', 'f', 'i', 'n', 'e', 'd']
      ((Arguments.ofValues []).cons v)).GivesIn mem (.bool !v.isUndefined) := fun v => .pure _
  rw [isGivenExpr, Expr.eval]
  refine hitem.bind ((GivesIn.pure _).bind ((GivesIn.pure _).bind (GivesIn.atLine ?_ _)))
  have hcollect : (Run.ofExcept (Arguments.collect [] [])).GivesIn mem (.ofValues []) := .pure _
  exact hcollect.bind (htest _)

/-- A placeholder of something that is given runs it. -/
theorem gives_placeholder (hf : scope.lookup? h.data invokeName = some (.function .invoke))
    {entries : List (Text × Value)}
    (hcontext : mem.seen (scope.lookup h.data Attribute.contextVar) = .ofNamed entries)
    {label : Text} {given : Value}
    (hgiven : Value.last? label entries = some given) (hdefined : given.isUndefined = false)
    {v : Value} (hrun : (Function.contained label (h.invoker label (.ofNamed entries))).GivesIn mem v)
    (line : Nat) :
    ((Expr.ifElse (isGivenExpr label line) (invokeExpr label Attribute.contextVar line) none).eval
      h scope).GivesIn mem v := by
  have htest := gives_isGiven hcontext label line
  rw [hgiven, Option.getD_some, hdefined] at htest
  have hprops : ((Expr.var Attribute.contextVar line).eval h scope).GivesIn mem
      (.ofNamed entries) := by
    rw [Expr.eval, ← hcontext]
    exact .refresh _
  rw [Expr.eval]
  refine htest.bind ?_
  rw [if_pos (by decide)]
  exact gives_invoke hf label hprops (Value.isMissing_ofNamed entries) hrun line

/-- A placeholder of nothing is undefined. -/
theorem gives_placeholder_none {entries : List (Text × Value)}
    (hcontext : mem.seen (scope.lookup h.data Attribute.contextVar) = .ofNamed entries)
    {label : Text}
    (hgiven : ((Value.last? label entries).getD .undefined).isUndefined = true) (line : Nat) :
    ((Expr.ifElse (isGivenExpr label line) (invokeExpr label Attribute.contextVar line) none).eval
      h scope).GivesIn mem .undefined := by
  have htest := gives_isGiven hcontext label line
  rw [hgiven] at htest
  rw [Expr.eval]
  refine htest.bind ?_
  rw [if_neg (by decide)]
  exact .pure _

/-! ## Statements -/

/-- A scope in which what is written shows, and values are escaped. -/
structure Scope.Shows (s : Scope) : Prop where
  discarding : s.discarding = false
  escaping : s.escaping = true

theorem Scope.shows_start (name : Text) (blocks : List BlockStack) : (start name blocks).Shows :=
  ⟨rfl, rfl⟩

theorem gives_write (hscope : scope.Shows) (text : Text) :
    Run.GivesIn mem ((Exec.write text).run scope) (text, scope) := by
  have hwrite : (Exec.write text).run scope = pure (if scope.discarding then [] else text, scope) :=
    rfl
  rw [hwrite, hscope.discarding]
  exact .pure _

theorem gives_writeValue (hscope : scope.Shows) (v : Value) :
    Run.GivesIn mem ((Exec.writeValue v).run scope) (v.markup, scope) := by
  rw [Exec.writeValue, StateT.run_bind]
  refine (GivesIn.pure (scope, scope)).bind ?_
  rw [hscope.escaping]
  exact gives_write hscope v.markup

theorem gives_cons {s : Stmt} {text : Text}
    (hs : Run.GivesIn mem ((s.exec h).run scope) (text, scope)) {body : List Stmt} {out : Text}
    (hbody : Run.GivesIn mem ((Stmt.execAll h body).run scope) (out, scope)) :
    Run.GivesIn mem ((Stmt.execAll h (s :: body)).run scope) (text ++ out, scope) := by
  rw [Stmt.execAll, StateT.run_bind]
  refine hs.bind ?_
  rw [StateT.run_bind]
  exact hbody.bind (.pure _)

theorem gives_dataStmts (hscope : scope.Shows) (text : Text) {body : List Stmt} {out : Text}
    (hbody : Run.GivesIn mem ((Stmt.execAll h body).run scope) (out, scope)) :
    Run.GivesIn mem ((Stmt.execAll h (dataStmts text ++ body)).run scope) (text ++ out, scope) := by
  cases text with
  | nil => exact hbody
  | cons c s =>
    have hdata : Run.GivesIn mem (((Stmt.data (c :: s)).exec h).run scope) (c :: s, scope) :=
      gives_write hscope (c :: s)
    exact gives_cons hdata hbody

/-- Text alone writes itself. -/
theorem gives_data (hscope : scope.Shows) (text : Text) :
    Run.GivesIn mem ((Stmt.execAll h (dataStmts text)).run scope) (text, scope) := by
  have hnil : Run.GivesIn mem ((Stmt.execAll h []).run scope) ([], scope) := .pure _
  have htext := gives_dataStmts hscope text hnil
  rwa [List.append_nil, List.append_nil] at htext

theorem gives_exec_eval {e : Expr} {v : Value} (hv : (e.eval h scope).GivesIn mem v) :
    Run.GivesIn mem ((Exec.eval h e).run scope) (v, scope) := by
  rw [Exec.eval, StateT.run_bind]
  refine (GivesIn.pure (scope, scope)).bind ?_
  rw [StateT.run_monadLift]
  exact hv.bind (.pure _)

theorem gives_emit (hscope : scope.Shows) {e : Expr} {v : Value} (hv : (e.eval h scope).GivesIn mem v)
    {body : List Stmt} {out : Text}
    (hbody : Run.GivesIn mem ((Stmt.execAll h body).run scope) (out, scope)) :
    Run.GivesIn mem ((Stmt.execAll h (.emit e :: body)).run scope) (v.markup ++ out, scope) := by
  refine gives_cons ?_ hbody
  rw [Stmt.exec, StateT.run_bind]
  exact (gives_exec_eval hv).bind (gives_writeValue hscope v)

/-- A condition that does not hold writes its second body. -/
theorem gives_otherwise {test : Expr} (htest : (test.eval h scope).GivesIn mem (.bool false))
    {no : List Stmt} {out : Text}
    (hno : Run.GivesIn mem ((Stmt.execAll h no).run scope) (out, scope)) (yes : List Stmt) :
    Run.GivesIn mem ((Stmt.execAll h [.ifElse test yes no]).run scope) (out, scope) := by
  have hnil : Run.GivesIn mem ((Stmt.execAll h []).run scope) ([], scope) := .pure _
  rw [← List.append_nil out]
  refine gives_cons ?_ hnil
  rw [Stmt.exec, StateT.run_bind]
  exact (gives_exec_eval htest).bind hno

/-! ## Templates -/

variable {library : Library} {invoker : Invoker} {name : Text} {data : Value}

/-- A body writes what its statements write, if they extend no other template. -/
theorem gives_runBody {body : List Stmt} {out : Text} (hparent : scope.parent = none)
    (hbody : Run.Gives ((Stmt.execAll h body).run scope) (out, scope)) :
    Run.Gives ((Stmt.runBody h body).run scope) (out, scope) := by
  have hscope : { scope with parent := none } = scope := by
    rw [← hparent]
  obtain ⟨frames, closure, closures, escaping, blocks, block, loaded, parent, discarding, depth⟩ :=
    scope
  cases hparent
  rw [Stmt.runBody, StateT.run_bind]
  refine (GivesIn.pure _).bind ?_
  rw [StateT.run_bind]
  refine (GivesIn.pure _).bind ?_
  rw [StateT.run_bind]
  refine hbody.bind ?_
  rw [StateT.run_bind]
  refine (GivesIn.pure ([], _)).bind ?_
  rw [List.append_nil, StateT.run_bind]
  exact (GivesIn.pure _).bind (.pure _)

/-- A template writes what its statements write. -/
theorem gives_render {body : List Stmt} {out : Text}
    (hbody : ∀ h : Host, h.invoker = invoker → h.data = data →
      Run.Gives ((Stmt.execAll h body).run (.start name (Stmt.allBlocks body)))
        (out, .start name (Stmt.allBlocks body))) :
    (Template.render library invoker name body data).Gives out :=
  have hrun := gives_runBody rfl (hbody _ (Host.of_invoker ..) (Host.of_data ..))
  (hrun.bind (.pure out)).toEnd

/-- A template that is text writes it. -/
theorem gives_render_text (library : Library) (invoker : Invoker) (name text : Text)
    (data : Value) : (Template.render library invoker name (dataStmts text) data).Gives text :=
  gives_render fun _ _ _ => gives_data (Scope.shows_start ..) text

/-- A placeholder with a fallback writes the fallback if nothing is given. -/
theorem gives_render_fallback (library : Library) (invoker : Invoker) (name : Text)
    {entries : List (Text × Value)} {label : Text}
    (hgiven : Value.last? label entries = none) (yes : List Stmt) (fallback : Text) :
    (Template.render library invoker name [.ifElse (isGivenExpr label 1) yes (dataStmts fallback)]
      (Value.ofNamed entries).scope).Gives fallback := by
  refine gives_render fun h _ hdata => ?_
  have hcontext : (Memory.ofEvents []).seen ((Scope.start name (Stmt.allBlocks
      [.ifElse (isGivenExpr label 1) yes (dataStmts fallback)])).lookup h.data
        Attribute.contextVar) = .ofNamed entries := by
    rw [hdata]
    exact lookup_contextVar entries name _
  have htest := gives_isGiven hcontext label 1
  rw [hgiven] at htest
  exact gives_otherwise htest (gives_data (Scope.shows_start ..) fallback) yes

/-- A template that is one expression writes its value. -/
theorem gives_render_emit {e : Expr} {v : Value}
    (he : ∀ h : Host, h.invoker = invoker → h.data = data →
      (e.eval h (.start name [])).Gives v) :
    (Template.render library invoker name [.emit e] data).Gives v.markup := by
  refine gives_render fun h hinvoker hdata => ?_
  have hnil : Run.Gives ((Stmt.execAll h []).run (.start name [])) ([], .start name []) := .pure _
  have hemit := gives_emit (Scope.shows_start ..) (he h hinvoker hdata) hnil
  rwa [List.append_nil] at hemit

/-- A template that is a placeholder writes what the definition of the label gives. -/
theorem gives_render_placeholder {entries : List (Text × Value)} {label : Text}
    (hf : (Scope.start name []).lookup? (Value.ofNamed entries).scope invokeName =
      some (.function .invoke)) {given : Value} (hgiven : Value.last? label entries = some given)
    (hdefined : given.isUndefined = false) {v : Value}
    (hrun : (Function.contained label (invoker label (.ofNamed entries))).Gives v) :
    (Template.render library invoker name
      [.emit (.ifElse (isGivenExpr label 1) (invokeExpr label Attribute.contextVar 1) none)]
      (Value.ofNamed entries).scope).Gives v.markup := by
  refine gives_render_emit fun h hinvoker hdata => ?_
  rw [← hdata] at hf
  rw [← hinvoker] at hrun
  exact gives_placeholder hf (hdata ▸ lookup_contextVar entries name []) hgiven hdefined hrun 1

/-- A template that is a placeholder writes nothing if nothing is given for the label. -/
theorem gives_render_placeholder_none {entries : List (Text × Value)} {label : Text}
    (hgiven : ((Value.last? label entries).getD .undefined).isUndefined = true) :
    (Template.render library invoker name
      [.emit (.ifElse (isGivenExpr label 1) (invokeExpr label Attribute.contextVar 1) none)]
      (Value.ofNamed entries).scope).Gives [] :=
  gives_render_emit fun _ _ hdata =>
    gives_placeholder_none (hdata ▸ lookup_contextVar entries name []) hgiven 1

end Componentry.Template
