import Componentry.Namespace
import Componentry.Proofs.Coupling.Execution

/-! # Definitions that go alike

A namespace whose templates pass the tests renders them alike with invokers that go alike
(`Namespace.couple_render`), and so it does as an invocation, if every source that values may
hold parses to a template that passes them (`Namespace.couple_partialRun`).
-/
namespace Componentry

open Template

/-! ## Data and slot sources -/

namespace Template.Value

variable {p : Policy}

theorem Trusted.scope {data : Value} (h : data.Trusted p) : data.scope.Trusted p := by
  refine .ofNamed fun e he => ?_
  rcases List.mem_append.1 he with he | he
  · obtain ⟨⟨k, v⟩, hmem, hsome⟩ := List.mem_filterMap.1 he
    obtain ⟨name, -, rfl⟩ := Option.map_eq_some_iff.1 hsome
    exact (h.entries _ hmem).2
  · rw [List.mem_singleton.1 he]
    exact h

theorem Trusted.slotSources {props : Value} (h : props.Trusted p) :
    ∀ s ∈ props.slotSources, p.sources s.2 = true := by
  intro s hs
  obtain ⟨⟨k, v⟩, hmem, hsome⟩ := List.mem_filterMap.1 hs
  obtain ⟨name, -, hsome⟩ := Option.bind_eq_some_iff.1 hsome
  obtain ⟨source, hsource, hsome⟩ := Option.bind_eq_some_iff.1 hsome
  have hv := (h.entries _ hmem).2
  cases v with
  | deferred source' =>
    cases hsource
    obtain ⟨-, hsome⟩ := Option.ite_none_right_eq_some.1 hsome
    cases hsome
    exact Trusted.deferred_iff.1 hv
  | _ => cases hsource

/-- **Trusted props carry only sources that values may hold.** -/
theorem Trusted.allSlotSources {props : Value} (h : props.Trusted p) :
    ∀ s ∈ props.allSlotSources, p.sources s.2 = true := by
  intro s hs
  rcases List.mem_append.1 hs with hs | hs
  · exact h.slotSources s hs
  · cases hslots : props.member? slotsVar with
    | none => simp [hslots] at hs
    | some slots =>
      rw [hslots] at hs
      exact (h.member? hslots).slotSources s hs

end Template.Value

/-! ## Namespaces -/

namespace Namespace

/-- A namespace whose templates all have a property. -/
def All (good : List Stmt → Prop) (ns : Namespace) : Prop := ∀ t ∈ ns.templates, good t.body

theorem mem_put {t u : NamedTemplate} {templates : List NamedTemplate} (h : u ∈ put t templates) :
    u = t ∨ u ∈ templates := by
  induction templates with
  | nil => exact Or.inl (List.mem_singleton.1 h)
  | cons first templates ih =>
    rw [put] at h
    split at h
    · rcases List.mem_cons.1 h with rfl | h
      · exact Or.inl rfl
      · exact Or.inr (List.mem_cons_of_mem _ h)
    · rcases List.mem_cons.1 h with rfl | h
      · exact Or.inr List.mem_cons_self
      · rcases ih h with rfl | h
        · exact Or.inl rfl
        · exact Or.inr (List.mem_cons_of_mem _ h)

variable {S : Setting} {good : List Stmt → Prop} {ns : Namespace}

@[simp] theorem All.nil : All good ⟨[]⟩ := by
  simp [All]

theorem All.add {ns' : Namespace} (hns : ns.All good) {name source : Text}
    (hs : ∀ body, Template.parse source = .ok body → good body)
    (h : ns.add name source = .ok ns') : ns'.All good := by
  cases hparse : Template.parse source with
  | error fault => simp [Namespace.add, hparse, Except.map] at h
  | ok body =>
    simp only [Namespace.add, hparse, Except.map, Except.ok.injEq] at h
    subst h
    intro t ht
    rcases mem_put ht with rfl | ht
    · exact hs body hparse
    · exact hns t ht

theorem All.library (hns : ns.All good) {name : Text} {body : List Stmt}
    (h : ns.library.find? name = some body) : good body := by
  obtain ⟨t, ht, rfl⟩ := Option.map_eq_some_iff.1 h
  exact hns t (List.mem_of_find?_eq_some ht)

/-- Both runs install the same sources, whose templates have the property. -/
theorem All.couple_install (hreport : ∀ name fault,
      S.events.Written [notInstallable name fault] [notInstallable name fault])
    (sources : List (Text × Text)) (hns : ns.All good)
    (hs : ∀ s ∈ sources, ∀ body, Template.parse s.2 = .ok body → good body) :
    Couple S (Same (All good)) (ns.install sources) (ns.install sources) := by
  induction sources generalizing ns with
  | nil => exact .pure (.of hns)
  | cons s sources ih =>
    obtain ⟨name, source⟩ := s
    rw [List.forall_mem_cons] at hs
    rw [Namespace.install]
    split
    · rename_i hadd
      exact ih (hns.add hs.1 hadd) hs.2
    · exact (Couple.log (hreport _ _)).bindSame fun _ _ => ih hns hs.2

/-- A namespace whose templates pass the tests. -/
def Passes (S : Setting) : Namespace → Prop := All fun body => Stmt.allOf S.tests body = true

end Namespace

/-! ## Runs of definitions -/

namespace Template

/-- Invocations go alike. -/
def Invoker.Coupled (S : Setting) (i j : Invoker) : Prop :=
  ∀ name props, props.Trusted S.policy →
    Couple S (Same fun _ => True) (i name props) (j name props)

/-- A setting for runs with the same data: special expressions go alike, and so do the reports
on sources that values may hold, which parse to templates that pass the tests. -/
structure Setting.ForSameData (S : Setting) : Prop where
  special : ∀ h h' : Host, h.Fits S h' → h.data = h'.data → h.data.Trusted S.policy →
    h.Special S h'
  report : ∀ name fault,
    S.events.Written [Namespace.notInstallable name fault] [Namespace.notInstallable name fault]
  parse : ∀ source, S.sources source = true → ∀ body, Template.parse source = .ok body →
    Stmt.allOf S.tests body = true

end Template

namespace Namespace

variable {S : Setting} {ns : Namespace} {i j : Invoker}

/-- **A namespace renders its templates alike** with invokers that go alike. -/
theorem couple_render (hS : S.ForSameData) (hns : ns.Passes S) (hij : Invoker.Coupled S i j)
    (name : Text) {data : Value} (hd : data.Trusted S.policy) :
    Couple S (Same fun _ => True) (ns.render i name data) (ns.render j name data) := by
  have hfits (levels : Nat) : (Host.of ns.library i data.scope levels).Fits S
      (Host.of ns.library j data.scope levels) := by
    refine ⟨by simp, fun name body hbody => ?_, fun name props hprops => ?_, fun x _ => ?_, by simp⟩
    · rw [Host.of_library] at hbody
      exact All.library hns hbody
    · rw [Host.of_invoker, Host.of_invoker]
      exact (hij name props hprops).contained
    · rw [Host.of_data, Host.of_data]
      exact ⟨rfl, fun v hv => hd.scope.member? hv⟩
  have hspecial (levels : Nat) := hS.special _ _ (hfits levels) (by simp) (by simpa using hd.scope)
  unfold Namespace.render
  cases hfind : ns.find? name with
  | none => exact .fail
  | some t =>
    exact Template.couple_render hfits hspecial name (hns t (List.mem_of_find?_eq_some hfind))

/-- **A namespace runs its templates alike as invocations.** -/
theorem couple_partialRun (hS : S.ForSameData) (hns : ns.Passes S) (hij : Invoker.Coupled S i j)
    (name : Text) {props : Value} (hp : props.Trusted S.policy) :
    Couple S (Same fun _ => True) (ns.partialRun i name props) (ns.partialRun j name props) := by
  have hsources : ∀ s ∈ props.allSlotSources, ∀ body, Template.parse s.2 = .ok body →
      Stmt.allOf S.tests body = true := fun s hs => hS.parse s.2 (hp.allSlotSources s hs)
  exact (All.couple_install hS.report _ hns hsources).bindSame fun installed hinstalled =>
    couple_render hS hinstalled hij name hp

end Namespace

/-! ## Runs of which nothing is asked -/

namespace Template.Setting

variable {events : EventRelation}

/-- The setting that asks nothing of values and code. -/
def lenient (events : EventRelation) : Setting where
  events := events
  sources _ := true
  functions _ := true
  callable _ := true
  tests := .none
  isVar _ := true
  isCallee _ := true
  special _ := false
  inMacro _ := rfl
  parts _ := Or.inr (Expr.parts_of_all _)
  special_var := rfl
  functions_callable _ := rfl
  callable_deferred _ _ := rfl
  functions_of_isVar _ _ := rfl
  callable_of_isCallee _ _ := rfl
  named_of_name h := by cases h

theorem trusted_lenient (v : Value) : v.Trusted (lenient events).policy := by
  refine Value.isTrusted_of_all (fun _ => rfl) (fun _ => rfl) (fun code => ?_) v
  simp [policy, lenient, Macro.passes]

theorem forSameData_lenient (hreport : ∀ name fault,
    events.Written [Namespace.notInstallable name fault] [Namespace.notInstallable name fault]) :
    (lenient events).ForSameData :=
  ⟨fun _ _ _ _ _ _ he => (by cases he), hreport, fun _ _ body _ => Stmt.allOf_none body⟩

end Template.Setting

theorem Namespace.passes_lenient {events : EventRelation} (ns : Namespace) :
    ns.Passes (.lenient events) := fun t _ => Stmt.allOf_none t.body

end Componentry
