import Componentry.Proofs.Compilation
import Componentry.Proofs.Template.Maps
import Componentry.Proofs.Template.Running

/-! # What an invocation runs

An invocation installs the slot sources of its props and then runs what stands under
its name.  Sources that do not parse are left out, and a later source of a name takes
the place of an earlier one; so the last source of the name that parses is run, and
what the namespace itself holds under the name only if there is none
(`Namespace.partialRun_eq`).
-/
namespace Componentry

open Template Run

/-- A label is not the name of a variable of the library's own. -/
theorem ne_of_isComponentName {label name : Text} (h : isComponentName label = true)
    (hname : isComponentName name = false) : label ≠ name := by
  rintro rfl
  rw [h] at hname
  cases hname

/-- The statements of the last source of a name that parses. -/
def installedBody? (name : Text) : List (Text × Text) → Option (List Stmt)
  | [] => none
  | s :: more =>
    (installedBody? name more).or (if s.1 = name then (parse s.2).toOption else none)

theorem installedBody?_append (name : Text) (sources more : List (Text × Text)) :
    installedBody? name (sources ++ more) =
      (installedBody? name more).or (installedBody? name sources) := by
  induction sources with
  | nil => simp [installedBody?]
  | cons s sources ih => rw [List.cons_append, installedBody?, ih, installedBody?, Option.or_assoc]

theorem installedBody?_eq_none {name : Text} {sources : List (Text × Text)}
    (h : ∀ s ∈ sources, s.1 ≠ name) : installedBody? name sources = none := by
  induction sources with
  | nil => rfl
  | cons s sources ih =>
    rw [List.forall_mem_cons] at h
    rw [installedBody?, ih h.2, if_neg h.1, Option.or_none]

/-- A source of a name that no other source has. -/
theorem installedBody?_eq {name source : Text} {sources : List (Text × Text)}
    (hmem : (name, source) ∈ sources) (honly : ∀ s ∈ sources, s.1 = name → s.2 = source) :
    installedBody? name sources = (parse source).toOption := by
  induction sources with
  | nil => cases hmem
  | cons s sources ih =>
    rw [List.forall_mem_cons] at honly
    rw [installedBody?]
    by_cases hlater : ∃ s ∈ sources, s.1 = name
    · obtain ⟨⟨n, source'⟩, hs, rfl⟩ := hlater
      obtain rfl := honly.2 _ hs rfl
      rw [ih hs honly.2]
      split
      · rename_i hfirst
        rw [honly.1 hfirst, Option.or_self]
      · rw [Option.or_none]
    · -- The first source is the only one of its name.
      rcases List.mem_cons.1 hmem with rfl | hmem
      · rw [installedBody?_eq_none fun s hs heq => hlater ⟨s, hs, heq⟩, if_pos rfl, Option.none_or]
      · exact absurd ⟨_, hmem, rfl⟩ hlater

namespace Namespace

/-- The statements of a definition. -/
def body? (ns : Namespace) (name : Text) : Option (List Stmt) :=
  (ns.find? name).map NamedTemplate.body

/-- What an invocation of a name with props runs. -/
def invokedBody? (ns : Namespace) (name : Text) (props : Value) : Option (List Stmt) :=
  (installedBody? name props.allSlotSources).or (ns.body? name)

/-- **After slot sources are installed**, the last one of a name that parses stands under
the name. -/
theorem exists_install (ns : Namespace) (sources : List (Text × Text)) :
    ∃ installed : Namespace, (∀ mem, (ns.install sources).GivesIn mem installed) ∧
      ∀ name, installed.body? name = (installedBody? name sources).or (ns.body? name) := by
  induction sources generalizing ns with
  | nil => exact ⟨ns, fun _ => .pure ns, fun _ => rfl⟩
  | cons s sources ih =>
    obtain ⟨name, source⟩ := s
    cases hparse : parse source with
    | ok body =>
      obtain ⟨ns', hadd, hfind⟩ := ns.add_of_parse name hparse
      obtain ⟨installed, hrun, hbody⟩ := ih ns'
      refine ⟨installed, fun mem => ?_, fun n => ?_⟩
      · rw [install, hadd]
        exact hrun mem
      · have hadded : ns'.body? n =
            (if name = n then (parse source).toOption else none).or (ns.body? n) := by
          rw [body?, hfind, hparse]
          split <;> rfl
        rw [hbody, installedBody?, hadded, Option.or_assoc]
    | error fault =>
      have hadd : ns.add name source = .error fault := by
        rw [add, hparse]
        rfl
      obtain ⟨installed, hrun, hbody⟩ := ih ns
      refine ⟨installed, fun mem => ?_, fun n => ?_⟩
      · rw [install, hadd]
        exact (GivesIn.log _).bind (hrun mem)
      · have hleft : (if name = n then (parse source).toOption else none) = none := by
          rw [hparse]
          split <;> rfl
        rw [hbody, installedBody?, hleft, Option.or_none]

theorem render_eq_body? (ns : Namespace) (invoker : Invoker) (name : Text) (data : Value) :
    ns.render invoker name data =
      match ns.body? name with
      | none => Run.fail .templateNotFound
      | some body => Template.render ns.library invoker name body data.scope := by
  rw [render, body?]
  cases ns.find? name <;> rfl

/-- **An invocation runs the last slot source of its name that parses**, and what the
namespace holds under the name if there is none. -/
theorem partialRun_eq (ns : Namespace) (invoker : Invoker) (name : Text) (props : Value) :
    ns.partialRun invoker name props = (do
      let installed ← ns.install props.allSlotSources
      match ns.invokedBody? name props with
      | none => Run.fail .templateNotFound
      | some body => Template.render installed.library invoker name body props.scope) := by
  obtain ⟨installed, hrun, hbody⟩ := ns.exists_install props.allSlotSources
  refine Run.ext fun mem => ?_
  obtain ⟨log, hlog⟩ := hrun mem mem.events
  rw [partialRun, run_bind, run_bind, hlog]
  simp only [render_eq_body?, hbody, invokedBody?]

theorem gives_partialRun {ns : Namespace} {invoker : Invoker} {name : Text} {props : Value}
    {body : List Stmt} (hbody : ns.invokedBody? name props = some body) {out : Text}
    (h : ∀ library, (Template.render library invoker name body props.scope).Gives out) :
    (ns.partialRun invoker name props).Gives out := by
  obtain ⟨installed, hrun, -⟩ := ns.exists_install props.allSlotSources
  rw [partialRun_eq, hbody]
  exact (hrun _).bind (h installed.library)

/-- An invocation of a name that stands for nothing fails, which leaves no markup. -/
theorem gives_contained_partialRun_none {ns : Namespace} {name : Text} {props : Value}
    (h : ns.invokedBody? name props = none) (invoker : Invoker) :
    (Function.contained name (ns.partialRun invoker name props)).Gives (.ofMarkup []) := by
  intro log
  obtain ⟨installed, hrun, -⟩ := ns.exists_install props.allSlotSources
  obtain ⟨log', hlog⟩ := hrun (.ofEvents []) log
  rw [Function.contained, run_tryCatch, run_bind, partialRun_eq, run_bind, hlog, h]
  exact ⟨_, rfl⟩

/-- A name that no slot source has is run as it stands in the namespace. -/
theorem invokedBody?_eq_body? (ns : Namespace) {name : Text} {props : Value}
    (h : ∀ s ∈ props.allSlotSources, s.1 ≠ name) : ns.invokedBody? name props = ns.body? name := by
  rw [invokedBody?, installedBody?_eq_none h, Option.none_or]

end Namespace

/-! ## The slot sources of maps -/

namespace Template.Value

/-- Slot sources are named like components. -/
theorem isComponentName_of_mem_slotSources {props : Value} {s : Text × Text}
    (h : s ∈ props.slotSources) : isComponentName s.1 = true := by
  obtain ⟨⟨k, v⟩, -, hsome⟩ := List.mem_filterMap.1 h
  obtain ⟨name, -, hsome⟩ := Option.bind_eq_some_iff.1 hsome
  obtain ⟨source, -, hsome⟩ := Option.bind_eq_some_iff.1 hsome
  split at hsome
  · rename_i hname
    cases hsome
    exact hname
  · cases hsome

theorem isComponentName_of_mem_allSlotSources {props : Value} {s : Text × Text}
    (h : s ∈ props.allSlotSources) : isComponentName s.1 = true := by
  rcases List.mem_append.1 h with h | h
  · exact isComponentName_of_mem_slotSources h
  · cases hmore : props.member? slotsVar with
    | none =>
      rw [hmore] at h
      cases h
    | some more =>
      rw [hmore] at h
      exact isComponentName_of_mem_slotSources h

/-- A map of names carries the source under a name that is a component's. -/
theorem installedBody?_slotSources {label : Text} (hlabel : isComponentName label = true)
    (entries : List (Text × Value)) :
    installedBody? label (ofNamed entries).slotSources =
      (last? label entries).bind fun v => v.source?.bind fun source => (parse source).toOption := by
  by_cases h : ∃ source, last? label entries = some (.deferred source)
  · obtain ⟨source, hlast⟩ := h
    have honly : ∀ s ∈ (ofNamed entries).slotSources, s.1 = label → s.2 = source := by
      rintro ⟨_, source'⟩ hs rfl
      have hsource := (mem_slotSources_ofNamed.1 hs).2
      rw [hlast] at hsource
      exact (Value.deferred.inj (Option.some.inj hsource)).symm
    rw [installedBody?_eq (mem_slotSources_ofNamed.2 ⟨hlabel, hlast⟩) honly, hlast]
    rfl
  · have hnone : ∀ s ∈ (ofNamed entries).slotSources, s.1 ≠ label := by
      rintro ⟨_, source⟩ hs rfl
      exact h ⟨source, (mem_slotSources_ofNamed.1 hs).2⟩
    rw [installedBody?_eq_none hnone]
    cases hlast : last? label entries with
    | none => rfl
    | some v =>
      cases v with
      | deferred source => exact absurd ⟨source, hlast⟩ h
      | _ => rfl

end Template.Value

end Componentry
