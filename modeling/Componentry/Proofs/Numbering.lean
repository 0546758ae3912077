import Componentry.Expansion.Basic

/-! # The numbers of generated definitions

The definitions that an expansion generates for slots carry numbers in their names.
They are given out without gaps (`Expansion.numbered_paired`), and a name tells its
number (`Slots.unitName_inj`), so no two definitions of a unit have the same name,
and a number that has been used up is not used again.
-/
namespace Componentry

namespace Slots

/-- The number of a generated definition can be read off its name. -/
theorem unitName_inj {owner component component' label label' : Text} {n n' : Nat}
    (h : unitName owner component label n = unitName owner component' label' n') : n = n' := by
  -- The numeral is what stands behind the last underscore.
  have hlast : ∀ (s : Text) (n : Nat), ((s ++ '_' :: Text.ofNat n).reverse.takeWhile (· != '_')) =
      (Text.ofNat n).reverse := by
    intro s n
    have hall : ∀ c ∈ (Text.ofNat n).reverse, (c != '_') = true := by
      intro c hc
      have hne : c ≠ '_' := by
        rintro rfl
        exact Nat.underscore_not_in_toDigits (List.mem_reverse.1 hc)
      simpa using hne
    rw [List.reverse_append, List.reverse_cons, List.append_assoc,
      List.takeWhile_append_of_pos hall]
    simp
  have hform : ∀ (component label : Text) (n : Nat), unitName owner component label n =
      (owner ++ ['_', '_'] ++ (component ++ ['_', '_'] ++ (label ++ ['_']))) ++
        '_' :: Text.ofNat n := by
    intro component label n
    simp [unitName, Text.join]
  rw [hform, hform] at h
  have hrev := congrArg (fun s : Text => s.reverse.takeWhile (· != '_')) h
  simp only [hlast, List.reverse_inj] at hrev
  calc
    n = Nat.ofDigitChars 10 (Text.ofNat n) 0 := Nat.ofDigitChars_ten_toDigits.symm
    _ = Nat.ofDigitChars 10 (Text.ofNat n') 0 := by rw [hrev]
    _ = n' := Nat.ofDigitChars_ten_toDigits

end Slots

/-- Names of definitions that are named after `owner` and numbered on from `count`,
without gaps. -/
def Numbered (owner : Text) (count : Nat) (names : List Text) : Prop :=
  ∀ i name, names[i]? = some name →
    ∃ component label, name = Slots.unitName owner component label (count + i)

namespace Numbered

variable {owner : Text} {count : Nat} {names more : List Text}

theorem nil (owner : Text) (count : Nat) : Numbered owner count [] := by
  intro i name h
  simp at h

theorem append (h : Numbered owner count names)
    (h' : Numbered owner (count + names.length) more) : Numbered owner count (names ++ more) := by
  intro i name hi
  by_cases hlt : i < names.length
  · rw [List.getElem?_append_left hlt] at hi
    exact h i name hi
  · rw [List.getElem?_append_right (by omega)] at hi
    obtain ⟨component, label, hname⟩ := h' _ name hi
    refine ⟨component, label, ?_⟩
    rw [hname]
    congr 1
    omega

/-- Names with later numbers are other names. -/
theorem disjoint {count' : Nat} (h : Numbered owner count names)
    (h' : Numbered owner count' more) (hle : count + names.length ≤ count') :
    ∀ name ∈ names, name ∉ more := by
  intro name hmem hmem'
  obtain ⟨i, hi⟩ := List.getElem?_of_mem hmem
  obtain ⟨j, hj⟩ := List.getElem?_of_mem hmem'
  obtain ⟨component, label, hname⟩ := h i name hi
  obtain ⟨component', label', hname'⟩ := h' j name hj
  have hnumber := Slots.unitName_inj (hname.symm.trans hname')
  have hlt := (List.getElem?_eq_some_iff.1 hi).1
  omega

/-- Numbered names are distinct. -/
theorem nodup (h : Numbered owner count names) : names.Nodup := by
  refine List.pairwise_iff_getElem.2 ?_
  intro i j hi hj hij heq
  obtain ⟨component, label, hname⟩ := h i names[i] (List.getElem?_eq_getElem hi)
  obtain ⟨component', label', hname'⟩ := h j names[j] (List.getElem?_eq_getElem hj)
  have hnumber := Slots.unitName_inj (hname.symm.trans (heq.trans hname'))
  omega

end Numbered

theorem Slots.numbered_extract (owner component : Text) (count : Nat) (inner : Text) :
    Numbered owner count ((Slots.extract owner component count inner).units.map SlotUnit.name) := by
  intro i name hi
  simp only [Slots.extract, List.map_map, List.getElem?_map, Option.map_eq_some_iff,
    List.getElem?_zipIdx] at hi
  obtain ⟨-, ⟨⟨label, body⟩, -, rfl⟩, rfl⟩ := hi
  exact ⟨component, label, rfl⟩

namespace Expansion

/-- **An expansion numbers its definitions without gaps**, on from `count`. -/
theorem numbered_paired (r : Registry) (owner : Text) (count offset : Nat) (s : Text) :
    Numbered owner count ((paired r owner count offset s).units.map SlotUnit.name) := by
  fun_induction paired r owner count offset s with
  | case1 => exact .nil owner _
  | case2 count offset s before e after _ _ _ _ _ ih => exact ih
  | case3 count offset s before e after _ _ _ _ body close _ _ inner slots units rest ih₁ ih₂ =>
    have hslots := Slots.numbered_extract owner e.name (count + inner.units.length) inner.text
    have hunits : Numbered owner count (units.map SlotUnit.name) := by
      rw [List.map_append]
      refine ih₁.append ?_
      rw [List.length_map]
      exact hslots
    rw [List.map_append]
    refine hunits.append ?_
    rw [List.length_map]
    exact ih₂
  | case4 count offset s before name read after _ _ start rest ih => exact ih

theorem numbered_ofText (r : Registry) (owner : Text) (count : Nat) (s : Text) :
    Numbered owner count ((ofText r owner count s).units.map SlotUnit.name) :=
  numbered_paired r owner count 0 (selfClosing r s)

end Expansion

end Componentry
