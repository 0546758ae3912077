import Componentry.Proofs.Markup.Tree

/-! # Slots are collected by their labels

The slots of an invocation are collected piece by piece, each piece added to what
its label has already.  Seen from the end (`Slots.contents_eq_gather`) this gives
every label once, where it occurs first, with all of its pieces in order, and the
default slot last: it is `Slots.gather`, which does not depend on what the pieces
are (`Slots.gather_map`).
-/
namespace Componentry

namespace Slots

variable {α β : Type}

theorem parts_cons (slot : Option Text) (a : α) (pieces : List (Option Text × α))
    (label : Option Text) :
    parts ((slot, a) :: pieces) label =
      if slot = label then a :: parts pieces label else parts pieces label := by
  unfold parts
  by_cases h : slot = label <;> simp [h]

theorem parts_map (f : α → β) (pieces : List (Option Text × α)) (label : Option Text) :
    parts (pieces.map (Prod.map id f)) label = (parts pieces label).map f := by
  unfold parts
  rw [List.filter_map, List.map_map, List.map_map]
  rfl

/-- Collecting slots does not depend on what the parts are. -/
theorem gather_map (f : α → β) (blank : α → Bool) (blank' : β → Bool)
    {pieces : List (Option Text × α)} (hblank : ∀ p ∈ pieces, blank' (f p.2) = blank p.2) :
    gather blank' (pieces.map (Prod.map id f)) =
      (gather blank pieces).map (Prod.map id (List.map f)) := by
  have hlabels : (pieces.map (Prod.map id f)).filterMap Prod.fst = pieces.filterMap Prod.fst := by
    rw [List.filterMap_map]
    rfl
  have hmem : ∀ a ∈ parts pieces none, blank' (f a) = blank a := by
    intro a ha
    obtain ⟨p, hp, rfl⟩ := List.mem_map.1 ha
    exact hblank p (List.mem_filter.1 hp).1
  have hall : ((parts pieces none).map f).all blank' = (parts pieces none).all blank := by
    rw [List.all_map, Bool.eq_iff_iff, List.all_eq_true, List.all_eq_true]
    exact forall₂_congr fun a ha => by rw [Function.comp_apply, hmem a ha]
  simp only [gather, hlabels, parts_map, hall, List.map_append, List.map_map]
  congr 1
  split <;> rfl

/-- A piece of contents as its slot and its text. -/
def ofPiece : ContentPiece → Option Text × Text
  | .loose text => (none, text)
  | .slot label body => (label, body)

/-- The text of one slot. -/
def textOf (pieces : List (Option Text × Text)) (label : Option Text) : Text :=
  (parts pieces label).flatten

theorem textOf_cons (slot : Option Text) (s : Text) (pieces : List (Option Text × Text))
    (label : Option Text) :
    textOf ((slot, s) :: pieces) label =
      (if slot = label then s else []) ++ textOf pieces label := by
  rw [textOf, parts_cons]
  split <;> simp [textOf]

theorem default_eq (pieces : List ContentPiece) :
    default pieces = textOf (pieces.map ofPiece) none := by
  induction pieces with
  | nil => rfl
  | cons piece pieces ih =>
    rw [default, List.flatMap_cons, ← default, ih, List.map_cons]
    cases piece with
    | loose text => exact (textOf_cons none text _ none).symm
    | slot label body =>
      rw [ofPiece, textOf_cons]
      cases label <;> rfl

/-- Adding to a label that occurs changes its entry only. -/
theorem put_of_mem {label body : Text} {slots : List (Text × Text)}
    (hnodup : (slots.map Prod.fst).Nodup) (h : label ∈ slots.map Prod.fst) :
    put label body slots =
      slots.map fun (l, b) => (l, b ++ if some label = some l then body else []) := by
  induction slots with
  | nil => simp at h
  | cons slot slots ih =>
    obtain ⟨l, b⟩ := slot
    simp only [List.map_cons, List.nodup_cons] at hnodup
    by_cases hl : l = label
    · subst hl
      have hrest : slots.map (fun (l', b) => (l', b ++ if some l = some l' then body else [])) =
          slots := by
        refine (List.map_congr_left ?_).trans (List.map_id _)
        rintro ⟨l', b'⟩ hmem
        have hne : l ≠ l' := fun heq => hnodup.1 (heq ▸ List.mem_map_of_mem hmem)
        simp [hne]
      rw [put, if_pos rfl, List.map_cons, hrest]
      simp
    · simp only [List.map_cons, List.mem_cons, Ne.symm hl, false_or] at h
      rw [put, if_neg hl, ih hnodup.2 h, List.map_cons]
      simp [Ne.symm hl]

theorem put_of_notMem {label body : Text} {slots : List (Text × Text)}
    (h : label ∉ slots.map Prod.fst) : put label body slots = slots ++ [(label, body)] := by
  induction slots with
  | nil => rfl
  | cons slot slots ih =>
    obtain ⟨l, b⟩ := slot
    simp only [List.map_cons, List.mem_cons, not_or] at h
    rw [put, if_neg (Ne.symm h.1), ih h.2]
    rfl

/-- What collecting makes of slots and of the pieces that are left: the slots get
what belongs to them, and the labels that are new come behind them, in the order
of their first occurrence. -/
def collected (slots : List (Text × Text)) (pieces : List (Option Text × Text)) :
    List (Text × Text) :=
  slots.map (fun (l, b) => (l, b ++ textOf pieces (some l))) ++
    ((pieces.filterMap Prod.fst).filter fun l => !decide (l ∈ slots.map Prod.fst)).eraseDups.map
      fun l => (l, textOf pieces (some l))

theorem collected_default (slots : List (Text × Text)) (s : Text)
    (pieces : List (Option Text × Text)) :
    collected slots ((none, s) :: pieces) = collected slots pieces := by
  simp [collected, textOf_cons]

theorem filterMap_cons (label s : Text) (pieces : List (Option Text × Text)) :
    ((some label, s) :: pieces).filterMap Prod.fst = label :: pieces.filterMap Prod.fst := rfl

theorem collected_of_mem {label : Text} (body : Text) {slots : List (Text × Text)}
    (hnodup : (slots.map Prod.fst).Nodup) (hmem : label ∈ slots.map Prod.fst)
    (pieces : List (Option Text × Text)) :
    collected (put label body slots) pieces = collected slots ((some label, body) :: pieces) := by
  have hkeys : (put label body slots).map Prod.fst = slots.map Prod.fst := by
    rw [put_of_mem hnodup hmem, List.map_map]
    rfl
  rw [collected, hkeys, put_of_mem hnodup hmem, List.map_map, collected, filterMap_cons,
    List.filter_cons_of_neg (by rw [decide_eq_true hmem]; decide)]
  congr 1
  · refine List.map_congr_left ?_
    rintro ⟨l, b⟩ -
    simp [textOf_cons]
  · refine List.map_congr_left ?_
    intro l hl
    have hne : label ≠ l := by
      rintro rfl
      rw [List.mem_eraseDups, List.mem_filter] at hl
      simp only [Bool.not_eq_true', decide_eq_false_iff_not] at hl
      exact hl.2 hmem
    simp [textOf_cons, hne]

theorem collected_of_notMem {label : Text} (body : Text) {slots : List (Text × Text)}
    (hmem : label ∉ slots.map Prod.fst) (pieces : List (Option Text × Text)) :
    collected (put label body slots) pieces = collected slots ((some label, body) :: pieces) := by
  have hfilter : (fun l => !decide (l ∈ slots.map Prod.fst ++ [(label, body)].map Prod.fst)) =
      fun l => (!l == label) && !decide (l ∈ slots.map Prod.fst) := by
    funext l
    by_cases hl : l = label
    · simp only [hl, List.map_singleton, List.mem_append, List.mem_singleton]
      simp
    · simp only [List.map_singleton, List.mem_append, List.mem_singleton]
      simp [hl]
  rw [collected, put_of_notMem hmem, List.map_append, List.map_append, List.map_singleton, hfilter,
    collected, filterMap_cons, List.filter_cons_of_pos (by rw [decide_eq_false hmem]; decide),
    List.eraseDups_cons, List.filter_filter, List.map_cons, List.append_assoc]
  congr 1
  · refine List.map_congr_left ?_
    rintro ⟨l, b⟩ hlb
    have hne : label ≠ l := fun heq => hmem (heq ▸ List.mem_map_of_mem hlb)
    simp [textOf_cons, hne]
  · rw [List.singleton_append]
    congr 1
    · simp [textOf_cons]
    · refine List.map_congr_left ?_
      intro l hl
      have hne : label ≠ l := by
        rintro rfl
        rw [List.mem_eraseDups, List.mem_filter] at hl
        simp at hl
      simp [textOf_cons, hne]

theorem nodup_put {label body : Text} {slots : List (Text × Text)}
    (hnodup : (slots.map Prod.fst).Nodup) : ((put label body slots).map Prod.fst).Nodup := by
  by_cases hmem : label ∈ slots.map Prod.fst
  · rw [put_of_mem hnodup hmem, List.map_map]
    exact hnodup
  · rw [put_of_notMem hmem, List.map_append, List.nodup_append]
    refine ⟨hnodup, by simp, ?_⟩
    rintro l hl l' hl' rfl
    simp only [List.map_cons, List.map_nil, List.mem_singleton] at hl'
    exact hmem (hl' ▸ hl)

/-- One step of the collection of named slots. -/
def putPiece (slots : List (Text × Text)) (piece : ContentPiece) : List (Text × Text) :=
  match piece with
  | .slot (some label) body => put label body slots
  | _ => slots

theorem foldl_putPiece (pieces : List ContentPiece) (slots : List (Text × Text))
    (hnodup : (slots.map Prod.fst).Nodup) :
    pieces.foldl putPiece slots = collected slots (pieces.map ofPiece) := by
  induction pieces generalizing slots with
  | nil => simp [collected, textOf, parts]
  | cons piece pieces ih =>
    rw [List.foldl_cons, List.map_cons]
    cases piece with
    | loose text => exact (ih slots hnodup).trans (collected_default slots text _).symm
    | slot label body =>
      cases label with
      | none => exact (ih slots hnodup).trans (collected_default slots body _).symm
      | some label =>
        rw [putPiece, ih _ (nodup_put hnodup), ofPiece]
        by_cases hmem : label ∈ slots.map Prod.fst
        · exact collected_of_mem body hnodup hmem _
        · exact collected_of_notMem body hmem _

theorem named_eq (pieces : List ContentPiece) :
    named pieces = ((pieces.map ofPiece).filterMap Prod.fst).eraseDups.map
      fun l => (l, textOf (pieces.map ofPiece) (some l)) := by
  have h : named pieces = collected [] (pieces.map ofPiece) := foldl_putPiece pieces [] List.nodup_nil
  rw [h, collected, List.filter_eq_self.2 (by simp)]
  rfl

/-- Of repeated labels the first is kept. -/
theorem nodup_eraseDups : ∀ labels : List Text, labels.eraseDups.Nodup
  | [] => List.nodup_nil
  | label :: labels => by
    rw [List.eraseDups_cons, List.nodup_cons, List.mem_eraseDups]
    exact ⟨by simp, nodup_eraseDups (labels.filter fun l => !l == label)⟩
termination_by labels => labels.length
decreasing_by
  have hshorter := List.length_filter_le (fun l => !l == label) labels
  simp only [List.length_cons]
  omega

theorem isVoid_flatten (parts : List Text) :
    Text.isVoid parts.flatten = parts.all Text.isVoid := by
  induction parts with
  | nil => rfl
  | cons s parts ih =>
    rw [List.flatten_cons, Text.isVoid, List.all_append, ← Text.isVoid, ← Text.isVoid, ih,
      List.all_cons]

/-- **The slots of contents are collected by their labels**, and equal labels are
concatenated. -/
theorem contents_eq_gather (pieces : List ContentPiece) :
    contents pieces =
      (gather Text.isVoid (pieces.map ofPiece)).map (Prod.map id List.flatten) := by
  rw [contents, named_eq, default_eq, gather, textOf, isVoid_flatten, List.map_append,
    List.map_map]
  congr 1
  split <;> rfl

end Slots

end Componentry
