import Componentry.Proofs.Coupling.Definitions
import Componentry.Proofs.Template.Maps
import Componentry.Slot.Basic
import Mathlib.Data.List.Forall2

/-! # Data that differ under one key

Two values are **like** each other, up to a key, if they are the same, or two maps of
data that agree under all other keys, or two maps of props with the same entries, where
only the caller's data may differ and are like each other again (`Value.Like`).

A template that runs with one of them sees the same under all other names
(`Value.Like.member?_scope`), apart from its context and its caller's, which are like
each other; and both carry the same slot sources (`Value.Like.allSlotSources_eq`).
Props that are made of values that are like each other are like each other
(`Value.Like.makeDict`, `Value.Like.makeMerge`).

Values that take part pass the tests of a policy, but for the data that rendering starts
with, which are **plain**: they hold nothing but data (`Value.Plain`).
-/
namespace Componentry.Template

namespace Value

/-! ## Plain values -/

/-- A value that holds nothing but data: it passes the tests of any policy, and there is
nothing in it that is brought up to date. -/
structure Plain (v : Value) : Prop where
  trusted : ∀ q, v.Trusted q
  update : ∀ cells, v.update cells = v

theorem updateEntries_named (cells : Nat → Option (List (Value × Value)))
    (es : List (Text × Value)) :
    updateEntries cells (named es) = named (es.map fun e => (e.1, e.2.update cells)) := by
  induction es with
  | nil => rfl
  | cons e es ih => exact congrArg _ ih

theorem insertNamed_map (f : Value → Value) (key : Text) (v : Value) (es : List (Text × Value)) :
    Value.insertNamed key (f v) (es.map fun e => (e.1, f e.2)) =
      (Value.insertNamed key v es).map fun e => (e.1, f e.2) := by
  induction es with
  | nil => rfl
  | cons e es ih =>
    simp only [List.map_cons, Value.insertNamed]
    cases Text.order key e.1 with
    | gt => rw [ih, List.map_cons]
    | _ => rfl

theorem sorted_map (f : Value → Value) (es : List (Text × Value)) :
    sorted (es.map fun e => (e.1, f e.2)) = (sorted es).map fun e => (e.1, f e.2) := by
  have hfold (done : List (Text × Value)) :
      (es.map fun e => (e.1, f e.2)).foldl (fun done e => Value.insertNamed e.1 e.2 done)
          (done.map fun e => (e.1, f e.2)) =
        (es.foldl (fun done e => Value.insertNamed e.1 e.2 done) done).map
          fun e => (e.1, f e.2) := by
    induction es generalizing done with
    | nil => rfl
    | cons e es ih => rw [List.map_cons, List.foldl_cons, insertNamed_map, ih, List.foldl_cons]
  exact hfold []

/-- A map of names is brought up to date in its values. -/
theorem update_ofNamed (cells : Nat → Option (List (Value × Value))) (es : List (Text × Value)) :
    (ofNamed es).update cells = ofNamed (es.map fun e => (e.1, e.2.update cells)) := by
  rw [ofNamed_eq, ofNamed_eq, sorted_map, ← updateEntries_named]
  rfl

/-- A map of names with plain values does not change. -/
theorem update_ofNamed_of_plain {es : List (Text × Value)} (h : ∀ e ∈ es, e.2.Plain)
    (cells : Nat → Option (List (Value × Value))) : (ofNamed es).update cells = ofNamed es := by
  rw [update_ofNamed, List.map_congr_left (g := id) fun e he => by rw [(h e he).update]; rfl,
    List.map_id]

mutual

/-- Data are plain. -/
theorem update_ofJson (cells : Nat → Option (List (Value × Value))) :
    ∀ j : Json, (ofJson j).update cells = ofJson j
  | .null | .bool _ | .int _ | .float _ | .string _ => rfl
  | .array items => congrArg list (updateItems_ofJson cells items)
  | .object fields => by
    rw [ofJson_object, update_ofNamed, List.map_map]
    exact congrArg ofNamed (update_ofJsonFields cells fields)

theorem updateItems_ofJson (cells : Nat → Option (List (Value × Value))) :
    ∀ items : List Json, updateItems cells (ofJsonItems items) = ofJsonItems items
  | [] => rfl
  | j :: items => by
    rw [ofJsonItems, updateItems, update_ofJson cells j, updateItems_ofJson cells items]

theorem update_ofJsonFields (cells : Nat → Option (List (Value × Value))) :
    ∀ fields : List (Text × Json),
      fields.map ((fun e => (e.1, e.2.update cells)) ∘ fun f => (f.1, ofJson f.2)) =
        fields.map fun f => (f.1, ofJson f.2)
  | [] => rfl
  | (name, j) :: fields => by
    rw [List.map_cons, List.map_cons, update_ofJsonFields cells fields]
    exact congrArg (fun v => (name, v) :: _) (update_ofJson cells j)

end

theorem plain_ofJson (j : Json) : (ofJson j).Plain :=
  ⟨fun _ => .ofJson j, fun cells => update_ofJson cells j⟩

/-! ## Values that are alike -/

/-- Entries that are the same, but for the caller's data, which are related. -/
inductive EntriesAlike (q : Policy) (R : Value → Value → Prop) :
    List (Text × Value) → List (Text × Value) → Prop where
  | nil : EntriesAlike q R [] []
  | same {name : Text} {v : Value} {es fs : List (Text × Value)}
      (hv : v.Trusted q) (h : EntriesAlike q R es fs) :
      EntriesAlike q R ((name, v) :: es) ((name, v) :: fs)
  | caller {v w : Value} {es fs : List (Text × Value)} (hvw : R v w)
      (h : EntriesAlike q R es fs) :
      EntriesAlike q R ((callerVar, v) :: es) ((callerVar, w) :: fs)

/-- Values that are alike up to the key `k`; what is the same in them passes the tests of a
policy.  Those that are `passed` on in an invocation are not the data that rendering starts
with, which are plain. -/
inductive Like (k : Text) (q : Policy) : (passed : Bool) → Value → Value → Prop where
  | same {passed : Bool} {v : Value} (hv : v.Trusted q) : Like k q passed v v
  | data {es fs : List (Text × Value)} (hes : ∀ e ∈ es, e.2.Plain) (hfs : ∀ e ∈ fs, e.2.Plain)
      (h : ∀ x, x ≠ k → last? x es = last? x fs) : Like k q false (ofNamed es) (ofNamed fs)
  | made {passed : Bool} {es fs : List (Text × Value)}
      (h : EntriesAlike q (Like k q false) es fs) : Like k q passed (ofNamed es) (ofNamed fs)

variable {k : Text} {q : Policy} {passed : Bool} {v w : Value}

/-! ## Entries -/

namespace EntriesAlike

variable {R : Value → Value → Prop} {es fs es' fs' : List (Text × Value)}

theorem refl (h : ∀ e ∈ es, e.2.Trusted q) : EntriesAlike q R es es := by
  induction es with
  | nil => exact .nil
  | cons e es ih =>
    rw [List.forall_mem_cons] at h
    exact .same h.1 (ih h.2)

theorem append (h : EntriesAlike q R es fs) (h' : EntriesAlike q R es' fs') :
    EntriesAlike q R (es ++ es') (fs ++ fs') := by
  induction h with
  | nil => exact h'
  | same hv _ ih => exact .same hv ih
  | caller hvw _ ih => exact .caller hvw ih

/-- Giving one name the same value keeps entries alike. -/
theorem insertNamed {name : Text}
    (hvw : Same (Trusted q) v w ∨ name = callerVar ∧ R v w)
    (h : EntriesAlike q R es fs) :
    EntriesAlike q R (Value.insertNamed name v es) (Value.insertNamed name w fs) := by
  -- Wherever the entry is put, it is one of the two kinds that may be put in front.
  have hcons : ∀ {es fs}, EntriesAlike q R es fs →
      EntriesAlike q R ((name, v) :: es) ((name, w) :: fs) := by
    rcases hvw with ⟨rfl, hv⟩ | ⟨rfl, hvw⟩
    · exact fun h => .same hv h
    · exact fun h => .caller hvw h
  induction h with
  | nil => exact hcons .nil
  | @same key u es fs hu h ih =>
    simp only [Value.insertNamed]
    cases horder : Text.order name key with
    | lt => exact hcons (.same hu h)
    | eq =>
      obtain rfl := Text.eq_of_order horder
      exact hcons h
    | gt => exact .same hu ih
  | @caller u u' es fs hu h ih =>
    simp only [Value.insertNamed]
    cases horder : Text.order name callerVar with
    | lt => exact hcons (.caller hu h)
    | eq =>
      obtain rfl := Text.eq_of_order horder
      exact hcons h
    | gt => exact .caller hu ih

theorem sorted (h : EntriesAlike q R es fs) :
    EntriesAlike q R (Value.sorted es) (Value.sorted fs) := by
  have hfold : ∀ done done', EntriesAlike q R done done' →
      EntriesAlike q R (es.foldl (fun done e => Value.insertNamed e.1 e.2 done) done)
        (fs.foldl (fun done e => Value.insertNamed e.1 e.2 done) done') := by
    induction h with
    | nil => exact fun _ _ h => h
    | same hv _ ih => exact fun done done' h => ih _ _ (h.insertNamed (Or.inl (.of hv)))
    | caller hvw _ ih => exact fun done done' h => ih _ _ (h.insertNamed (Or.inr ⟨rfl, hvw⟩))
  exact hfold [] [] .nil

theorem last?_rel {R' : Value → Value → Prop} (h : EntriesAlike q R es fs) (x : Text)
    (hsame : ∀ v, v.Trusted q → R' v v)
    (hcaller : x = callerVar → ∀ v w, R v w → R' v w) :
    Option.Rel R' (Value.last? x es) (Value.last? x fs) := by
  have hor : ∀ {a b c d : Option Value}, Option.Rel R' a b → Option.Rel R' c d →
      Option.Rel R' (a.or c) (b.or d) := by
    intro a b c d hab hcd
    cases hab with
    | some hab => exact .some hab
    | none => exact hcd
  induction h with
  | nil => exact .none
  | @same name u _ _ hu _ ih =>
    rw [Value.last?_cons, Value.last?_cons]
    refine hor ih ?_
    split
    · exact .some (hsame u hu)
    · exact .none
  | @caller u u' _ _ hu _ ih =>
    rw [Value.last?_cons, Value.last?_cons]
    refine hor ih ?_
    split
    · rename_i hx
      exact .some (hcaller hx.symm u u' hu)
    · exact .none

/-- What each entry gives on its own is the same, if the caller's data give nothing. -/
theorem filterMap_eq {α : Type} {f : Text × Value → Option α}
    (hf : ∀ v, f (callerVar, v) = Option.none) (h : EntriesAlike q R es fs) :
    es.filterMap f = fs.filterMap f := by
  induction h with
  | nil => rfl
  | same _ _ ih => rw [List.filterMap_cons, List.filterMap_cons, ih]
  | caller _ _ ih => rw [List.filterMap_cons_none (hf _), List.filterMap_cons_none (hf _), ih]

end EntriesAlike

/-! ## What a template sees -/

theorem optionRel_same {α : Type} {q : α → Prop} {o : Option α} (h : ∀ a, o = some a → q a) :
    Option.Rel (Same q) o o := by
  cases o with
  | none => exact .none
  | some a => exact .some (.of (h a rfl))

theorem eq_of_optionRel {α : Type} {q : α → Prop} {a b : Option α}
    (h : Option.Rel (Same q) a b) : a = b := by
  cases h with
  | some h => rw [h.1]
  | none => rfl

theorem of_optionRel {α : Type} {q : α → Prop} {a b : Option α} (h : Option.Rel (Same q) a b)
    {u : α} (hu : a = some u) : q u := by
  cases h with
  | some h =>
    cases hu
    exact h.2
  | none => cases hu

/-- A template sees its data as a whole under the context variable. -/
theorem member?_scope_context (v : Value) :
    v.scope.member? Attribute.contextVar = some v := by
  rw [scope, member?_ofNamed, last?_append]
  simp [last?, first?]

namespace Like

theorem unpassed (h : Like k q passed v w) : Like k q false v w := by
  cases h with
  | same hv => exact .same hv
  | data hes hfs h => exact .data hes hfs h
  | made h => exact .made h

theorem isUndefined_eq (h : Like k q passed v w) : v.isUndefined = w.isUndefined := by
  cases h with
  | same => rfl
  | data => simp only [ofNamed_eq, isUndefined]
  | made => simp only [ofNamed_eq, isUndefined]

theorem isMissing_eq (h : Like k q passed v w) : v.isMissing = w.isMissing := by
  cases h with
  | same => rfl
  | data => simp only [ofNamed_eq, isMissing]
  | made => simp only [ofNamed_eq, isMissing]

/-- **Under other names than the key a template sees the same**, but for its context and
its caller's. -/
theorem member?_scope (h : Like k q passed v w) {x : Text} (hkey : x ≠ k)
    (hcontext : x ≠ Attribute.contextVar) (hcaller : x ≠ callerVar) :
    Option.Rel (Same (Trusted q)) (v.scope.member? x) (w.scope.member? x) := by
  cases h with
  | same hv => exact optionRel_same fun u hu => hv.scope.member? hu
  | @data es fs hes _ h =>
    rw [Value.member?_scope, Value.member?_scope, if_neg hcontext, if_neg hcontext, ← h x hkey]
    exact optionRel_same fun u hu => (hes _ (mem_of_last? hu)).trusted q
  | made h =>
    rw [Value.member?_scope, Value.member?_scope, if_neg hcontext, if_neg hcontext]
    exact h.last?_rel x (fun _ hu => .of hu) fun hx => absurd hx hcaller

/-- Where props have been passed on, the caller's contexts are like each other. -/
theorem caller_scope (h : Like k q true v w) :
    Option.Rel (Like k q false) (v.scope.member? callerVar) (w.scope.member? callerVar) := by
  cases h with
  | same hv =>
    cases hu : v.scope.member? callerVar with
    | none => exact .none
    | some u => exact .some (.same (hv.scope.member? hu))
  | made h =>
    rw [Value.member?_scope, Value.member?_scope, if_neg (by decide), if_neg (by decide)]
    exact h.last?_rel callerVar (fun _ hu => .same hu) fun _ _ _ hu => hu

/-- The items under another text than the key are like each other. -/
theorem item?_rel (h : Like k q passed v w) {x : Text} (hkey : x ≠ k) :
    Option.Rel (Like k q false) (v.item? (ofText x)) (w.item? (ofText x)) := by
  have hitem : ∀ es : List (Text × Value), (ofNamed es).item? (ofText x) = last? x es := by
    intro es
    rw [← member?_ofNamed, ofNamed_eq]
    rfl
  cases h with
  | same hv =>
    cases hu : v.item? (ofText x) with
    | none => exact .none
    | some u => exact .some (.same (hv.item? hu))
  | @data es fs hes _ h =>
    rw [hitem, hitem, ← h x hkey]
    cases hu : last? x es with
    | none => exact .none
    | some u => exact .some (.same ((hes _ (mem_of_last? hu)).trusted q))
  | made h =>
    rw [hitem, hitem]
    exact h.last?_rel x (fun _ hu => .same hu) fun _ _ _ hu => hu

theorem matched_item (h : Like k q passed v w) {x : Text} (hkey : x ≠ k) :
    Matched (Like k q false) (v.item (ofText x)) (w.item (ofText x)) := by
  have hitem := h.item?_rel hkey
  rw [item, item, ← h.isUndefined_eq]
  generalize v.item? (ofText x) = a at hitem ⊢
  generalize w.item? (ofText x) = b at hitem ⊢
  cases hitem with
  | some hu => exact .ok hu
  | none =>
    dsimp only
    split
    · exact .error
    · exact .ok (.same .undefined)

end Like

/-! ## Values brought up to date -/

mutual

/-- Values that are alike stay so as they are brought up to date. -/
theorem Like.update {cells : Nat → Option (List (Value × Value))} (hcells : Trusted.Held q cells) :
    ∀ {passed : Bool} {v w : Value}, Like k q passed v w →
      Like k q passed (v.update cells) (w.update cells)
  | _, _, _, .same hv => .same (hv.update hcells)
  | _, _, _, .data hes hfs h => by
    rw [update_ofNamed_of_plain hes, update_ofNamed_of_plain hfs]
    exact .data hes hfs h
  | _, _, _, .made h => by
    rw [update_ofNamed, update_ofNamed]
    exact .made (EntriesAlike.update hcells h)

theorem EntriesAlike.update {cells : Nat → Option (List (Value × Value))}
    (hcells : Trusted.Held q cells) : ∀ {es fs : List (Text × Value)},
      EntriesAlike q (Like k q false) es fs →
        EntriesAlike q (Like k q false) (es.map fun e => (e.1, e.2.update cells))
          (fs.map fun e => (e.1, e.2.update cells))
  | _, _, .nil => .nil
  | _, _, .same hv h => .same (hv.update hcells) (EntriesAlike.update hcells h)
  | _, _, .caller hvw h => .caller (Like.update hcells hvw) (EntriesAlike.update hcells h)

end

/-! ## Slot sources -/

theorem slotSources_ofNamed (es : List (Text × Value)) :
    (ofNamed es).slotSources = (sorted es).filterMap fun e => e.2.source?.bind fun source =>
      if isComponentName e.1 then some (e.1, source) else Option.none := by
  have hentries : (ofNamed es).entries = named (sorted es) := by
    rw [ofNamed_eq]
    rfl
  rw [slotSources, hentries, named, List.filterMap_map]
  rfl

/-- Data carry no slot sources. -/
theorem allSlotSources_eq_nil {es : List (Text × Value)} (h : ∀ e ∈ es, e.2.Plain) :
    (ofNamed es).allSlotSources = [] := by
  let none : Policy := ⟨fun _ => false, fun _ => false, fun _ => false⟩
  have htrusted : (ofNamed es).Trusted none := .ofNamed fun e he => (h e he).trusted none
  refine List.eq_nil_iff_forall_not_mem.2 fun s hs => ?_
  cases htrusted.allSlotSources s hs

theorem Like.allSlotSources_eq (h : Like k q passed v w) : v.allSlotSources = w.allSlotSources := by
  cases h with
  | same => rfl
  | data hes hfs =>
    rw [allSlotSources_eq_nil hes, allSlotSources_eq_nil hfs]
  | @made _ es fs h =>
    have hcaller : isComponentName callerVar = false := by decide
    have hslots : Option.Rel (Same fun _ => True) (last? slotsVar es) (last? slotsVar fs) :=
      h.last?_rel slotsVar (fun _ _ => .of trivial) fun hx => absurd hx (by decide)
    rw [allSlotSources, allSlotSources, slotSources_ofNamed, slotSources_ofNamed, member?_ofNamed,
      member?_ofNamed, eq_of_optionRel hslots, h.sorted.filterMap_eq]
    intro u
    simp [hcaller]

/-- Values that are alike can be passed on, or carry no slot sources. -/
theorem Like.passed_or_nil (h : Like k q passed v w) :
    Like k q true v w ∨ v.allSlotSources = [] := by
  cases h with
  | same hv => exact Or.inl (.same hv)
  | data hes => exact Or.inr (allSlotSources_eq_nil hes)
  | made h => exact Or.inl (.made h)

/-- Slot sources of values that are like each other pass the test. -/
theorem Like.allSlotSources (h : Like k q passed v w) :
    ∀ s ∈ v.allSlotSources, q.sources s.2 = true := by
  cases h with
  | same hv => exact hv.allSlotSources
  | data hes =>
    rw [allSlotSources_eq_nil hes]
    simp
  | @made _ es fs h =>
    intro s hs
    rcases List.mem_append.1 hs with hs | hs
    · obtain ⟨hname, hsource⟩ := mem_slotSources_ofNamed.1 hs
      have hcaller : s.1 ≠ callerVar := by
        intro heq
        rw [heq] at hname
        exact absurd hname (by decide)
      have hlast := h.last?_rel s.1 (fun _ hu => Same.of hu) fun hx => absurd hx hcaller
      exact of_optionRel hlast hsource
    · have hlast := h.last?_rel slotsVar (fun _ hu => Same.of hu) fun hx => absurd hx (by decide)
      rw [member?_ofNamed] at hs
      cases hu : last? slotsVar es with
      | none => simp [hu] at hs
      | some u =>
        rw [hu] at hs
        exact Trusted.slotSources (of_optionRel hlast hu) s hs

/-! ## Props -/

/-- Keys and values that alternate, which are the same, but for the caller's data. -/
inductive PairsAlike (k : Text) (q : Policy) : List Value → List Value → Prop where
  | nil : PairsAlike k q [] []
  | odd (v w : Value) : PairsAlike k q [v] [w]
  | pair {key v w : Value} {vs ws : List Value}
      (hvw : Same (Trusted q) v w ∨ key.keyText = callerVar ∧ Like k q false v w)
      (h : PairsAlike k q vs ws) : PairsAlike k q (key :: v :: vs) (key :: w :: ws)

theorem PairsAlike.matched_pairs {vs ws : List Value} (h : PairsAlike k q vs ws) :
    Matched (EntriesAlike q (Like k q false)) (Function.pairs vs) (Function.pairs ws) := by
  induction h with
  | nil => exact .ok .nil
  | odd => exact .error
  | pair hvw _ ih =>
    rw [Function.pairs, Function.pairs]
    refine ih.map fun es fs h => ?_
    rcases hvw with ⟨rfl, hv⟩ | ⟨hkey, hvw⟩
    · exact .same hv h
    · rw [hkey]
      exact .caller hvw h

theorem PairsAlike.matched_makeDict {vs ws : List Value} (h : PairsAlike k q vs ws) :
    Matched (Like k q true) (Function.makeDict vs) (Function.makeDict ws) :=
  h.matched_pairs.map fun _ _ h => .made h

theorem Like.matched_mergeEntries (h : Like k q true v w) :
    Matched (EntriesAlike q (Like k q false)) (Function.mergeEntries v)
      (Function.mergeEntries w) := by
  have hentries : ∀ es : List (Text × Value),
      Function.mergeEntries (ofNamed es) = .ok (sorted es) := by
    intro es
    rw [ofNamed_eq, Function.mergeEntries]
    simp [Value.entries?, named, keyText, text, ofText, Function.comp_def]
  cases h with
  | same hv =>
    refine (Matched.same (Function.returns_mergeEntries hv)).weaken ?_
    rintro es _ ⟨rfl, hes⟩
    exact .refl hes
  | made h =>
    rw [hentries, hentries]
    exact .ok h.sorted

theorem matched_mergeAll {vs ws : List Value} (h : List.Forall₂ (Like k q true) vs ws) :
    Matched (EntriesAlike q (Like k q false)) (Function.mergeAll vs) (Function.mergeAll ws) := by
  induction h with
  | nil => exact .ok .nil
  | cons hvw _ ih =>
    exact hvw.matched_mergeEntries.bind fun _ _ h => ih.bind fun _ _ h' => .ok (h.append h')

theorem matched_makeMerge {vs ws : List Value} (h : List.Forall₂ (Like k q true) vs ws) :
    Matched (Like k q true) (Function.makeMerge vs) (Function.makeMerge ws) :=
  (matched_mergeAll h).map fun _ _ h => .made h

end Value

end Componentry.Template
