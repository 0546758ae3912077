import Componentry.Proofs.Slots.Installation
import Componentry.Proofs.Template.Code

/-! # Slots and spreads

The slots of a tag are merged behind everything that its spreads bring, so under a label
stands the source that the tag gives.  An invocation of the label still need not run it:
a spread may carry further sources, made of plain texts, and these are installed behind
the props' own.  What the tag gives is run if and only if no source that the spread
carries for the label parses (`Namespace.partialRun_merged`).  A text that is handed to a
component from outside is carried along as such a source (`Value.carriedBody?_promote`).
-/
namespace Componentry

open Template

namespace Template.Value

/-- The entries that a map or a record contributes to a merged map. -/
def keyed (s : Value) : List (Text × Value) := s.entries.map fun (k, v) => (k.keyText, v)

/-- The statements of the last source that parses, of those that a spread carries for a
label beside its own entries. -/
def carriedBody? (label : Text) (s : Value) : Option (List Stmt) :=
  (last? slotsVar s.keyed).bind fun held => installedBody? label held.slotSources

theorem keyed_ofNamed (entries : List (Text × Value)) : (ofNamed entries).keyed = sorted entries := by
  rw [ofNamed_eq, keyed]
  show (named (sorted entries)).map _ = _
  rw [named, List.map_map]
  exact List.map_id _

theorem last?_sorted (x : Text) (entries : List (Text × Value)) :
    last? x (sorted entries) = last? x entries := by
  rw [(inOrder_sorted entries).last?_eq, first?_sorted]

theorem mergeEntries_eq {s : Value} (h : s.kind = .map) : Function.mergeEntries s = .ok s.keyed := by
  cases s with
  | map entries => rfl
  | record form entries => cases form <;> first | rfl | cases h
  | _ => cases h

end Template.Value

open Template.Value

/-! ## Slots that are merged behind a spread -/

/-- **What is run of a label** that a tag gives content for, next to a spread, is the
content, unless a source that the spread carries for the label parses. -/
theorem Namespace.partialRun_merged (ns : Namespace) (invoker : Invoker) {s : Value}
    (hs : s.kind = .map) {label : Text} (hlabel : isComponentName label = true) {source : Text}
    {body : List Stmt} (hsource : parse source = .ok body) (caller : Value) :
    ∃ slots props,
      Function.makeDict [.ofText label, .deferred source, .ofText callerVar, caller] = .ok slots ∧
      Function.makeMerge [s, slots] = .ok props ∧
      props.member? label = some (.deferred source) ∧
      ns.partialRun invoker label props = (do
        let installed ← ns.install props.allSlotSources
        Template.render installed.library invoker label ((s.carriedBody? label).getD body)
          props.scope) := by
  let given : List (Text × Value) := [(label, .deferred source), (callerVar, caller)]
  let merged : List (Text × Value) := s.keyed ++ sorted given
  have hmerge : Function.makeMerge [s, .ofNamed given] = .ok (.ofNamed merged) := by
    have hslots := mergeEntries_eq (s := .ofNamed given) (by rw [ofNamed_eq]; rfl)
    rw [keyed_ofNamed] at hslots
    simp only [Function.makeMerge, Function.mergeAll, mergeEntries_eq hs, hslots]
    show Except.ok (Value.ofNamed (s.keyed ++ (sorted given ++ []))) = _
    rw [List.append_nil]
  have hlast : last? label merged = some (.deferred source) := by
    have hcaller : callerVar ≠ label := (ne_of_isComponentName hlabel rfl).symm
    rw [last?_append, last?_sorted, last?_cons, last?_cons, if_neg hcaller, if_pos rfl]
    rfl
  have hcarried : last? slotsVar merged = last? slotsVar s.keyed := by
    have hne : label ≠ slotsVar := ne_of_isComponentName hlabel rfl
    have hcaller : callerVar ≠ slotsVar := by decide
    rw [last?_append, last?_sorted, last?_cons, last?_cons, if_neg hne, if_neg hcaller]
    rfl
  have hbody : ns.invokedBody? label (.ofNamed merged) = some ((s.carriedBody? label).getD body) := by
    have hown : installedBody? label (Value.ofNamed merged).slotSources = some body := by
      rw [installedBody?_slotSources hlabel, hlast]
      simp [source?, hsource, Except.toOption]
    have hmore : installedBody? label (((Value.ofNamed merged).member? slotsVar).map
        slotSources |>.getD []) = s.carriedBody? label := by
      rw [member?_ofNamed, hcarried, carriedBody?]
      cases last? slotsVar s.keyed <;> rfl
    rw [Namespace.invokedBody?, allSlotSources, installedBody?_append, hmore, hown]
    cases s.carriedBody? label <;> rfl
  refine ⟨_, _, rfl, hmerge, ?_, ?_⟩
  · rw [member?_ofNamed, hlast]
  · rw [ns.partialRun_eq, hbody]

/-- A spread that brings a text for the label, and no source of its own. -/
theorem Namespace.partialRun_merged_text :
    (Value.ofNamed [(['A'], .ofText ['x'])]).kind = .map ∧ isComponentName ['A'] = true ∧
      parse ['t'] = .ok [.data ['t']] ∧
      ∃ slots props,
        Function.makeDict [.ofText ['A'], .deferred ['t'], .ofText callerVar, .undefined] =
          .ok slots ∧
        Function.makeMerge [.ofNamed [(['A'], .ofText ['x'])], slots] = .ok props ∧
        props.member? ['A'] = some (.deferred ['t']) ∧
        Namespace.empty.partialRun (Base.unfinished.invoke 0) ['A'] props = (do
          let installed ← Namespace.empty.install props.allSlotSources
          Template.render installed.library (Base.unfinished.invoke 0) ['A']
            ((carriedBody? ['A'] (.ofNamed [(['A'], .ofText ['x'])])).getD [.data ['t']])
            props.scope) := by
  have hparse : parse ['t'] = .ok [.data ['t']] := parse_text (by decide) (by simp)
  exact ⟨rfl, by decide, hparse,
    Namespace.empty.partialRun_merged _ rfl (by decide) hparse .undefined⟩

/-! ## Texts handed in from outside -/

namespace Template.Value

theorem InOrder.last?_eq_some_iff {entries : List (Text × Value)} (h : InOrder entries) {x : Text}
    {v : Value} : last? x entries = some v ↔ (x, v) ∈ entries :=
  ⟨mem_of_last?, fun hmem => by rw [h.last?_eq, h.first?_of_mem hmem]⟩

/-- Entries in order stay in order when some of them get another value. -/
theorem InOrder.filterMap {entries : List (Text × Value)} (h : InOrder entries)
    {f : Text × Value → Option (Text × Value)} (hf : ∀ e e', f e = some e' → e'.1 = e.1) :
    InOrder (entries.filterMap f) := by
  refine List.Pairwise.filterMap f (fun e e' horder a ha a' ha' => ?_) h
  rw [hf e a ha, hf e' a' ha']
  exact horder

theorem InOrder.last?_filterMap {entries : List (Text × Value)} (h : InOrder entries)
    {f : Text × Value → Option (Text × Value)} (hf : ∀ e e', f e = some e' → e'.1 = e.1) (x : Text) :
    last? x (entries.filterMap f) = (last? x entries).bind fun v => (f (x, v)).map Prod.snd := by
  refine Option.ext fun w => ?_
  rw [(h.filterMap hf).last?_eq_some_iff, Option.bind_eq_some_iff, List.mem_filterMap]
  constructor
  · rintro ⟨⟨name, v⟩, he, hsome⟩
    obtain rfl : x = name := hf _ _ hsome
    exact ⟨v, h.last?_eq_some_iff.2 he, by rw [hsome, Option.map_some]⟩
  · rintro ⟨v, hv, hw⟩
    obtain ⟨⟨name, w'⟩, hsome, rfl⟩ := Option.map_eq_some_iff.1 hw
    obtain rfl : name = x := hf _ _ hsome
    exact ⟨_, h.last?_eq_some_iff.1 hv, hsome⟩

/-- JSON data hold no slot sources. -/
theorem slotSources_ofJson (j : Json) : (ofJson j).slotSources = [] := by
  cases j with
  | object fields =>
    rw [ofJson_object, List.eq_nil_iff_forall_not_mem]
    rintro ⟨label, source⟩ hmem
    have hvalue := mem_of_last? (mem_slotSources_ofNamed.1 hmem).2
    obtain ⟨⟨name, v⟩, -, heq⟩ := List.mem_map.1 hvalue
    cases v <;> cases (Prod.mk.inj heq).2
  | _ => rfl

/-- The source that a text named like a component is carried along as. -/
def carried? (e : Text × Value) : Option (Text × Value) :=
  if isComponentName e.1 then e.2.text?.map fun source => (e.1, .deferred source) else Option.none

theorem carried?_name {e e' : Text × Value} (h : carried? e = some e') : e'.1 = e.1 := by
  unfold carried? at h
  split at h
  · obtain ⟨source, -, rfl⟩ := Option.map_eq_some_iff.1 h
    rfl
  · cases h

/-- Props are promoted by an entry behind their own that holds what they carry. -/
theorem promote_eq (props : Value) : props.promote = ofNamed (props.keyed ++
    if (props.keyed.filterMap carried?).isEmpty then []
    else [(slotsVar, ofNamed (props.keyed.filterMap carried?))]) := rfl

/-- **A text of an object that is named like a component is carried as a source** for its
name. -/
theorem carriedBody?_promote {label : Text} (hlabel : isComponentName label = true)
    (fields : List (Text × Json)) :
    carriedBody? label (ofJson (.object fields)).promote =
      (last? label (fields.map fun f => (f.1, ofJson f.2))).bind fun v =>
        v.text?.bind fun source => (parse source).toOption := by
  let entries := fields.map fun f => (f.1, ofJson f.2)
  let slots := (sorted entries).filterMap carried?
  have hkeyed : (ofJson (.object fields)).promote.keyed = sorted (sorted entries ++
      if slots.isEmpty then [] else [(slotsVar, ofNamed slots)]) := by
    have hentries : (ofJson (.object fields)).keyed = sorted entries := by
      rw [ofJson_object, keyed_ofNamed]
    rw [promote_eq, hentries, keyed_ofNamed]
  have hlast : (last? label slots).bind (fun v => v.source?.bind fun s => (parse s).toOption) =
      (last? label entries).bind fun v => v.text?.bind fun s => (parse s).toOption := by
    rw [(inOrder_sorted entries).last?_filterMap fun _ _ => carried?_name, last?_sorted]
    cases last? label entries with
    | none => rfl
    | some v =>
      simp only [carried?, Option.bind_some, if_pos hlabel]
      cases v.text? <;> rfl
  rw [carriedBody?, hkeyed, last?_sorted, ← hlast]
  split
  · rename_i hempty
    -- What an object itself has under the name of the carried sources is data.
    have hheld : ∀ v, last? slotsVar (sorted entries) = some v → v.slotSources = [] := by
      intro v hv
      rw [last?_sorted] at hv
      obtain ⟨f, -, heq⟩ := List.mem_map.1 (mem_of_last? hv)
      rw [← (Prod.mk.inj heq).2]
      exact slotSources_ofJson f.2
    rw [List.append_nil, List.isEmpty_iff.1 hempty]
    cases hv : last? slotsVar (sorted entries) with
    | none => rfl
    | some v =>
      rw [Option.bind_some, hheld v hv]
      rfl
  · rw [last?_append, last?_cons, if_pos rfl]
    exact installedBody?_slotSources hlabel slots

end Template.Value

/-- Runs a label that a tag gives content for, next to a spread. -/
def Namespace.runMerged (ns : Namespace) (s : Value) (label source : Text) (caller : Value) :
    Run Text := do
  let slots ← Run.ofExcept
    (Function.makeDict [.ofText label, .deferred source, .ofText callerVar, caller])
  let props ← Run.ofExcept (Function.makeMerge [s, slots])
  (Base.finished ns).partialRun ns label props

/-- **A text that is handed in from outside takes the place of the content that a tag
gives**; without the sources that the spread carries, the content is run. -/
theorem Namespace.runMerged_ne :
    (Namespace.empty.runMerged (Value.ofJson (.object [(['A'], .string ['x'])])).promote ['A']
        ['t'] .undefined).result.1.toOption = some ['x'] ∧
      (Namespace.empty.runMerged (.ofNamed [(['A'], .ofText ['x'])]) ['A'] ['t']
        .undefined).result.1.toOption = some ['t'] :=
  ⟨by decide +kernel, by decide +kernel⟩

end Componentry
