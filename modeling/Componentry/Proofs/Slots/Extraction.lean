import Componentry.Cursor.Naming
import Componentry.Proofs.Cursor.Expansion

/-! # Contents are split into slots without loss

The scans for slot elements cut contents into segments: the elements with the text between
them, where tags without their end are text (`Cursor.Segmented`).  Put together in order the
segments are the contents.  Every segment belongs to one slot, that of its label or the
default one, and the slots that are made of the contents hold their segments in order and
nothing else (`Cursor.emitSlots_eq`).
-/
namespace Componentry

/-! ## Segments -/

/-- A segment of contents. -/
inductive Segment where
  | text (s : Text)
  /-- A slot element, with the text of its attributes and that between its tags. -/
  | element (source attributes body : Text)

namespace Segment

/-- What a segment is of the contents. -/
def source : Segment → Text
  | text s => s
  | element source _ _ => source

/-- What a segment adds to its slot. -/
def content : Segment → Text
  | text s => s
  | element _ _ body => body

/-- The label of the slot that a segment belongs to; none for the default slot. -/
def label? : Segment → Option Text
  | text _ => none
  | element _ attributes _ => Cursor.slotLabel? (Attribute.parse attributes)

/-- The labels of segments, each where it occurs first. -/
def labels (segments : List Segment) : List Text := (segments.filterMap label?).eraseDups

/-- What segments add to one slot. -/
def contentOf (segments : List Segment) (label : Option Text) : Text :=
  ((segments.filter fun s => s.label? = label).map content).flatten

/-- The contents of the default slot, if it has any. -/
def defaults (segments : List Segment) : List Text :=
  [contentOf segments none].filter fun s => !Text.isVoid s

theorem label?_ne_default {segment : Segment} {label : Text} (h : segment.label? = some label) :
    label ≠ defaultLabel := by
  cases segment with
  | text s => cases h
  | element source attributes body =>
    simp only [label?, Cursor.slotLabel?] at h
    split at h
    · cases h
    · split at h
      · cases h
      · rename_i hdefault
        cases h
        simp only [Bool.or_eq_true, decide_eq_true_eq, not_or] at hdefault
        exact hdefault.2

/-- The labels are distinct, and none of them is that of the default slot. -/
theorem nodup_labels (segments : List Segment) : (defaultLabel :: labels segments).Nodup := by
  rw [List.nodup_cons]
  refine ⟨fun hmem => ?_, Slots.nodup_eraseDups _⟩
  rw [labels, List.mem_eraseDups] at hmem
  obtain ⟨segment, -, hlabel⟩ := List.mem_filterMap.1 hmem
  exact label?_ne_default hlabel rfl

/-- A segment with the label of its slot. -/
def part (segment : Segment) : Option Text × Text := (segment.label?, segment.content)

theorem filterMap_part (segments : List Segment) :
    (segments.map part).filterMap Prod.fst = segments.filterMap label? := by
  rw [List.filterMap_map]
  rfl

theorem textOf_part (segments : List Segment) (label : Option Text) :
    Slots.textOf (segments.map part) label = contentOf segments label := by
  rw [Slots.textOf, Slots.parts, List.filter_map, List.map_map]
  rfl

/-- The slots of contents by their segments. -/
theorem contents_eq {segments : List Segment} {pieces : List ContentPiece}
    (h : segments.map part = pieces.map Slots.ofPiece) :
    Slots.contents pieces =
      (labels segments).map (fun l => (l, contentOf segments (some l))) ++
        (defaults segments).map fun s => (defaultLabel, s) := by
  rw [Slots.contents, Slots.named_eq, Slots.default_eq, ← h, filterMap_part, textOf_part]
  simp only [textOf_part, labels, defaults]
  congr 1
  cases hvoid : Text.isVoid (contentOf segments none) <;> simp [hvoid]

end Segment

namespace Cursor

/-! ## The segments of a text -/

/-- The segments of contents from an offset on, by scans for slot elements. -/
inductive Segmented (inner : Text) : Nat → List Segment → Prop where
  | element {i : Nat} {m : TagMatch} {before source attributes body : Text}
      {segments : List Segment} :
      scan inner (· == slotTag) i = some (.found m) →
      inner.slice? i m.start = some before →
      inner.slice? m.start m.stop = some source →
      m.attributesText? inner = some attributes → m.bodyText? inner = some body →
      Segmented inner m.stop segments →
      Segmented inner i (.text before :: .element source attributes body :: segments)
  /-- A tag without its end is text. -/
  | unmatched {i : Nat} {name skipped : Text} {start resume : Nat} {segments : List Segment} :
      scan inner (· == slotTag) i = some (.unmatched name start resume) →
      inner.slice? i resume = some skipped →
      Segmented inner resume segments →
      Segmented inner i (.text skipped :: segments)
  | done {i : Nat} {rest : Text} :
      scan inner (· == slotTag) i = some .done →
      Text.atByte? i inner = some rest →
      Segmented inner i [.text rest]

/-- **Contents are cut into segments** that make them up in order, and that are the pieces
which the slots are collected from. -/
theorem exists_segmented {inner s : Text} {i : Nat} (h : Text.atByte? i inner = some s) :
    ∃ segments, Segmented inner i segments ∧ (segments.map Segment.source).flatten = s ∧
      segments.map Segment.part = (ContentPiece.ofText s).map Slots.ofPiece := by
  -- Along the splitting of the rest of the contents, outcome by outcome.
  fun_induction ContentPiece.ofText s generalizing i with
  | case1 s before e after hnext hlen ih =>
    obtain ⟨hscan, hstart⟩ := scan_found h hnext
    obtain ⟨hattributes, hbody, hstop⟩ := locate_cut hstart
    obtain ⟨segments, hsegments, hsource, hparts⟩ := ih hstop
    have hcut : inner.slice? (e.locate (i + Text.byteLength before)).tagMatch.start
        (e.locate (i + Text.byteLength before)).tagMatch.stop = some e.text :=
      Text.slice?_add hstart
    refine ⟨.text before :: .element e.text e.attributes e.body :: segments,
      .element hscan (slice?_found h hnext) hcut hattributes hbody hsegments, ?_, ?_⟩
    · simp only [List.map_cons, List.flatten_cons, Segment.source, hsource]
      exact (found_text hnext).symm
    · simp only [List.map_cons, hparts]
      rfl
  | case2 s before name read after hnext hlen ih =>
    obtain ⟨hscan, hresume⟩ := scan_unmatched h hnext
    obtain ⟨segments, hsegments, hsource, hparts⟩ := ih hresume
    refine ⟨.text (before ++ read) :: segments,
      .unmatched hscan (slice?_unmatched h hnext) hsegments, ?_, ?_⟩
    · simp only [List.map_cons, List.flatten_cons, Segment.source, hsource, List.append_assoc]
      exact (unmatched_text hnext).symm
    · simp only [List.map_cons, hparts]
      rfl
  | case3 s hnext =>
    exact ⟨[.text s], .done (scan_done h hnext) h, by simp [Segment.source], rfl⟩

/-! ## Names by the counter -/

/-- Slots that are added one after the other are numbered on. -/
theorem foldl_emit (component : Text) (contents : List (Text × Text)) (slots : Slots)
    (naming : SlotNaming) :
    contents.foldl (Slots.emit component) (slots, naming) =
      (⟨slots.entries ++ (numberSlots naming.owner component naming.counter contents).entries,
          slots.units ++ (numberSlots naming.owner component naming.counter contents).units⟩,
        ⟨naming.owner, naming.counter + contents.length⟩) := by
  induction contents generalizing slots naming with
  | nil => simp [numberSlots]
  | cons slot contents ih =>
    rw [List.foldl_cons, Slots.emit, ih]
    simp [numberSlots, SlotNaming.next, List.zipIdx_cons, Nat.add_right_comm, Nat.add_assoc]

theorem length_units (owner component : Text) (count : Nat) (contents : List (Text × Text)) :
    (numberSlots owner component count contents).units.length = contents.length := by
  simp [numberSlots]

/-- What does not look at numbers is the same for slots without them. -/
theorem map_zipIdx_fst {α : Type} (f : Text × Text → α) (contents : List (Text × Text))
    (count : Nat) : (contents.zipIdx count).map (fun slot => f slot.1) = contents.map f := by
  have hnumbers := congrArg (List.map f) (List.zipIdx_map_fst count contents)
  rwa [List.map_map] at hnumbers

theorem extract_bodies (owner component : Text) (count : Nat) (inner : Text) :
    (Slots.extract owner component count inner).units.map SlotUnit.body =
      (Slots.contents (ContentPiece.ofText inner)).map Prod.snd := by
  rw [Slots.extract, List.map_map]
  exact map_zipIdx_fst Prod.snd _ count

theorem extract_labels (owner component : Text) (count : Nat) (inner : Text) :
    (Slots.extract owner component count inner).entries.map Prod.fst =
      (Slots.contents (ContentPiece.ofText inner)).map Prod.fst := by
  rw [Slots.extract, List.map_map]
  exact map_zipIdx_fst Prod.fst _ count

/-- **The slots of contents**, by the counter, are those of the definition by numbers, and the
counter goes on by so many. -/
theorem emitSlots_eq_resolveSlots (component inner : Text) (naming : SlotNaming) :
    emitSlots component inner naming =
      (resolveSlots naming.owner component naming.counter inner).map fun slots =>
        (slots, ⟨naming.owner, naming.counter + slots.units.length⟩) := by
  -- The default slot is added as one more slot, or as none.
  have hdefault : ∀ (state : Slots × SlotNaming) (default : Text),
      (if Text.isVoid default then state
        else Slots.emit component state (defaultLabel, default)) =
      (if Text.isVoid default then [] else [(defaultLabel, default)]).foldl
        (Slots.emit component) state := by
    intro state default
    split <;> rfl
  cases hcontents : slotContents inner [] [] 0 with
  | none => simp [emitSlots, resolveSlots, hcontents]
  | some contents =>
    simp only [emitSlots, resolveSlots, hcontents, hdefault, Option.bind_eq_bind,
      Option.bind_some]
    rw [← List.foldl_append, foldl_emit]
    simp [length_units]

/-- **Contents are split into slots without loss or repetition.**  The contents are their
segments put together: text, and the slot elements that scans report.  There is one slot for
every label that a segment has, in the order of their first occurrence, and then the default
slot, unless it is blank; each holds what its segments add to it, in order.  The entries of the
slots name their definitions, and the counter goes on by the number of definitions. -/
theorem emitSlots_eq (component inner : Text) (naming : SlotNaming) :
    ∃ segments slots,
      Segmented inner 0 segments ∧ (segments.map Segment.source).flatten = inner ∧
      emitSlots component inner naming =
        some (slots, ⟨naming.owner, naming.counter + slots.units.length⟩) ∧
      slots = Slots.extract naming.owner component naming.counter inner ∧
      slots.units.map SlotUnit.body =
        (Segment.labels segments).map (fun label => Segment.contentOf segments (some label)) ++
          Segment.defaults segments ∧
      slots.entries.map Prod.fst =
        Segment.labels segments ++ (Segment.defaults segments).map (fun _ => defaultLabel) ∧
      (defaultLabel :: Segment.labels segments).Nodup ∧
      slots.entries.map Prod.snd = slots.units.map SlotUnit.name := by
  obtain ⟨segments, hsegments, hsource, hparts⟩ := exists_segmented (Text.atByte?_zero inner)
  have hcontents := Segment.contents_eq hparts
  refine ⟨segments, Slots.extract naming.owner component naming.counter inner, hsegments, hsource,
    ?_, rfl, ?_, ?_, Segment.nodup_labels segments, ?_⟩
  · rw [emitSlots_eq_resolveSlots, resolveSlots_eq]
    rfl
  · rw [extract_bodies, hcontents, List.map_append, List.map_map, List.map_map]
    exact congrArg (_ ++ ·) (List.map_id _)
  · rw [extract_labels, hcontents, List.map_append, List.map_map, List.map_map]
    exact congrArg (· ++ _) (List.map_id _)
  · rw [Slots.extract, List.map_map, List.map_map]
    rfl

/-- Two elements of one label in two spellings, and text between them. -/
example :
    (emitSlots ['C'] "<slot name='a'>x</slot>y<slot name=' A'>z</slot>".toList ⟨['o'], 3⟩).map
        (fun state => (state.1.entries.map Prod.fst, state.1.units.map SlotUnit.body, state.2)) =
      some ([['A'], defaultLabel], [['x', 'z'], ['y']], ⟨['o'], 5⟩) := by
  decide +kernel

end Cursor

end Componentry
