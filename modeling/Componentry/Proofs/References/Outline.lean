import Componentry.Proofs.Markup.Expansion

/-! # The invocations that an expansion writes

Both passes of an expansion read a text from left to right and write, in place of
some of its tags, invocations.  An **outline** is what such a pass has read: the
tags it replaces, and the text around them.  What the pass writes can be told from
the outline alone (`Expansion.paired_eq_write`, `Expansion.selfClosing_eq_write`),
so the invocations in its result are those of the outline, each with the slots it
refers to (`Call.slots`), and the definitions generated are the slots of these
invocations and no others.
-/
namespace Componentry

/-- What a pass of an expansion finds in a text. -/
inductive Outline where
  | done
  /-- Text that stays as it is. -/
  | kept (text : Text) (rest : Outline)
  /-- A tag that closes itself. -/
  | single (component attributes : Text) (rest : Outline)
  /-- A tag with contents. -/
  | paired (component attributes : Text) (contents rest : Outline)

/-- An invocation as it is written. -/
structure Call where
  component : Text
  attributes : Text
  /-- What stood between the tags, with its own invocations written; nothing for a
  tag that closes itself. -/
  contents : Text
  /-- The number of the first slot. -/
  number : Nat
deriving DecidableEq

namespace Call

/-- The slots that an invocation is given, named after `owner`. -/
def slots (owner : Text) (c : Call) : Slots := .extract owner c.component c.number c.contents

/-- The text of an invocation. -/
def source (owner : Text) (c : Call) : Text :=
  invocation c.component ((Props.ofText c.attributes).withEntries (c.slots owner).propEntries)

end Call

/-- The definitions generated for the slots of invocations. -/
def Call.units (owner : Text) (calls : List Call) : List SlotUnit :=
  calls.flatMap fun c => (c.slots owner).units

/-- A text with the invocations in it, inner ones before those they are given to. -/
structure Written where
  text : Text
  calls : List Call

theorem Scan.found_inside_length {accept : Text → Bool} {s before after : Text} {e : Element}
    (h : next accept s = .found before e after) : e.inside.length + after.length < s.length := by
  have hlen := found_length h
  have hpos := e.opening_length_pos
  rw [← e.opening_append_inside, List.length_append] at hlen
  omega

namespace Outline

/-- Writes what an outline holds.  Slots are named after `owner` and numbered on from
`count`. -/
def write (owner : Text) : (count : Nat) → Outline → Written
  | _, done => ⟨[], []⟩
  | count, kept text rest =>
    let w := rest.write owner count
    ⟨text ++ w.text, w.calls⟩
  | count, single component attributes rest =>
    let call : Call := ⟨component, attributes, [], count⟩
    let w := rest.write owner count
    ⟨call.source owner ++ w.text, call :: w.calls⟩
  | count, paired component attributes contents rest =>
    let inner := contents.write owner count
    let call : Call :=
      ⟨component, attributes, inner.text, count + (Call.units owner inner.calls).length⟩
    let calls := inner.calls ++ [call]
    let w := rest.write owner (count + (Call.units owner calls).length)
    ⟨call.source owner ++ w.text, calls ++ w.calls⟩

/-- What the pass over self-closing tags finds. -/
def ofSingles (r : Registry) (s : Text) : Outline :=
  match h : Scan.next r.invokes s with
  | .done => .kept s .done
  | .found before e after =>
    have : after.length < s.length := Scan.found_after_length h
    have : e.inside.length + after.length < s.length := Scan.found_inside_length h
    if e.isSelfClosing then .kept before (.single e.name e.attributes (ofSingles r after))
    else .kept (before ++ e.opening) (ofSingles r (e.inside ++ after))
  | .unmatched before _ read after =>
    have : after.length < s.length := Scan.unmatched_after_length h
    .kept (before ++ read) (ofSingles r after)
termination_by s.length

/-- What the pass over paired tags finds. -/
def ofTags (r : Registry) (s : Text) : Outline :=
  match h : Scan.next r.invokes s with
  | .done => .kept s .done
  | .found before e after =>
    have : after.length < s.length := Scan.found_after_length h
    match hc : e.contents with
    | none => .kept before (.single e.name e.attributes (ofTags r after))
    | some (body, _) =>
      have : body.length < s.length := Scan.found_body_length h hc
      .kept before (.paired e.name e.attributes (ofTags r body) (ofTags r after))
  | .unmatched before _ read after =>
    have : after.length < s.length := Scan.unmatched_after_length h
    .kept (before ++ read) (ofTags r after)
termination_by s.length

end Outline

/-! ## What the passes write -/

/-- An entry of slots refers to the definition of the same place, which holds the
content of the label. -/
theorem Slots.extract_entries {owner component inner label unit : Text} {count i : Nat}
    (h : (extract owner component count inner).entries[i]? = some (label, unit)) :
    ∃ body, (contents (ContentPiece.ofText inner))[i]? = some (label, body) ∧
      (extract owner component count inner).units[i]? = some ⟨unit, body⟩ ∧
      unit = unitName owner component label (count + i) := by
  simp only [extract, List.getElem?_map, List.getElem?_zipIdx, Option.map_map,
    Option.map_eq_some_iff, Prod.exists] at h
  obtain ⟨label', body, hcontents, heq⟩ := h
  simp only [Function.comp_apply, Prod.mk.injEq] at heq
  obtain ⟨rfl, rfl⟩ := heq
  refine ⟨body, hcontents, ?_, rfl⟩
  simp [extract, List.getElem?_zipIdx, hcontents]

theorem Call.source_of_contents_nil (owner component attributes : Text) (number : Nat) :
    Call.source owner ⟨component, attributes, [], number⟩ =
      invocation component (Props.ofText attributes) := by
  simp [source, slots, Slots.extract_nil, Slots.propEntries, Props.withEntries]

@[simp] theorem Call.units_nil (owner : Text) : Call.units owner [] = [] := rfl

@[simp] theorem Call.units_append (owner : Text) (calls more : List Call) :
    Call.units owner (calls ++ more) = Call.units owner calls ++ Call.units owner more := by
  simp [units]

theorem Call.units_cons (owner : Text) (c : Call) (calls : List Call) :
    Call.units owner (c :: calls) = (c.slots owner).units ++ Call.units owner calls := by
  simp [units]

namespace Expansion

open Outline

/-- **The first pass writes its outline**, whatever names and numbers slots get: it
gives no slots. -/
theorem selfClosing_eq_write (r : Registry) (owner : Text) (count : Nat) (s : Text) :
    selfClosing r s = ((ofSingles r s).write owner count).text := by
  fun_induction ofSingles r s with
  | case1 s h => simp [selfClosing_done h, write]
  | case2 s before e after h _ _ hself ih =>
    rw [selfClosing_found h, if_pos hself, ih]
    simp [write, Call.source_of_contents_nil]
  | case3 s before e after h _ _ hself ih =>
    rw [selfClosing_found h, if_neg hself, ih]
    simp [write]
  | case4 s before name read after h _ ih =>
    rw [selfClosing_unmatched h, ih]
    simp [write]

/-- **The second pass writes its outline**, and the definitions it generates are the
slots of the invocations written. -/
theorem paired_eq_write (r : Registry) (owner : Text) (count offset : Nat) (s : Text) :
    (paired r owner count offset s).text = ((ofTags r s).write owner count).text ∧
      (paired r owner count offset s).units =
        Call.units owner ((ofTags r s).write owner count).calls := by
  fun_induction ofTags r s generalizing count offset with
  | case1 s h => simp [paired_done h, write]
  | case2 s before e after h _ hc ih =>
    obtain ⟨htext, hunits⟩ := ih count (offset + Text.byteLength before + Text.byteLength e.text)
    rw [paired_single h hc]
    simp [write, under, htext, hunits, Call.source_of_contents_nil, Call.units_cons, Call.slots,
      Slots.extract_nil]
  | case3 s before e after h _ body close hc _ ihbody ihafter =>
    -- The slots of the body are numbered before those of the tag around it.
    obtain ⟨hinner, hslots⟩ := ihbody count 0
    rw [paired_found h hc]
    simp only [write, hinner, hslots, ihafter, Call.units_append, Call.units_cons, Call.units_nil,
      Call.source, Call.slots, List.append_assoc, List.append_nil, and_self]
  | case4 s before name read after h _ ih =>
    obtain ⟨htext, hunits⟩ := ih count (offset + Text.byteLength before + Text.byteLength read)
    rw [paired_unmatched h]
    simp [write, htext, hunits]

/-- The first pass invokes components, and gives them nothing. -/
theorem invokes_of_mem_singles {r : Registry} {owner s : Text} {count : Nat} {c : Call}
    (h : c ∈ ((ofSingles r s).write owner count).calls) :
    r.invokes c.component = true ∧ c.contents = [] := by
  fun_induction ofSingles r s with
  | case1 => cases h
  | case2 s before e after hnext _ _ _ ih =>
    rcases List.mem_cons.1 h with rfl | h
    · exact ⟨(Scan.next_eq_found hnext).2, rfl⟩
    · exact ih h
  | case3 s before e after _ _ _ _ ih => exact ih h
  | case4 s before name read after _ _ ih => exact ih h

/-- The second pass invokes components. -/
theorem invokes_of_mem_tags {r : Registry} {owner s : Text} {count : Nat} {c : Call}
    (h : c ∈ ((ofTags r s).write owner count).calls) : r.invokes c.component = true := by
  fun_induction ofTags r s generalizing count with
  | case1 => cases h
  | case2 s before e after hnext _ _ ih =>
    rcases List.mem_cons.1 h with rfl | h
    · exact (Scan.next_eq_found hnext).2
    · exact ih h
  | case3 s before e after hnext _ body close _ _ ihbody ihafter =>
    simp only [write, List.mem_append, List.mem_singleton] at h
    rcases h with (h | rfl) | h
    · exact ihbody h
    · exact (Scan.next_eq_found hnext).2
    · exact ihafter h
  | case4 s before name read after _ _ ih => exact ih h

end Expansion

end Componentry
