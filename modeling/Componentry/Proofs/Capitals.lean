import Mathlib.Data.List.DropRight
import Componentry.Slot.Basic

/-! # Capitalised names

The first character of a slot's name is replaced by its upper-case form, and a label whose
first character is upper-case can be installed.  These are different properties of Unicode:
a character without an upper-case form need not be upper-case, and neither need be the first
character of a form that has several.

The tables are compared as numbers, with a bit for every code point (`mask`).  It follows that
an upper-case form starts with an upper-case character unless it is the character itself, with
one exception (`upperCase_cases`), and that an upper-case character is its own form
(`upperCase_of_isUpper`).
-/
namespace Componentry

namespace Text

/-! ## Runs of code points as bits -/

/-- The number with the bits `first`, `first + step`, … of so many points. -/
def pointBits (first step : Nat) : (count : Nat) → Nat
  | 0 => 0
  | count + 1 => pointBits first step count ||| 1 <<< (first + count * step)

theorem testBit_pointBits {first step count n : Nat} :
    (pointBits first step count).testBit n = true ↔ ∃ k < count, first + k * step = n := by
  induction count with
  | zero => simp [pointBits]
  | succ count ih =>
    rw [pointBits, Nat.testBit_or, Nat.one_shiftLeft, Nat.testBit_two_pow, Bool.or_eq_true, ih,
      decide_eq_true_eq]
    constructor
    · rintro (⟨k, hk, hn⟩ | hn)
      · exact ⟨k, by omega, hn⟩
      · exact ⟨count, by omega, hn⟩
    · rintro ⟨k, hk, hn⟩
      rcases Nat.lt_succ_iff_lt_or_eq.1 hk with hk | rfl
      · exact .inl ⟨k, hk, hn⟩
      · exact .inr hn

namespace Run

/-- The bits of a run. -/
def bits (r : Run) : Nat := pointBits r.first r.step ((r.last - r.first) / r.step + 1)

theorem bounds_of_holds {r : Run} {n : Nat} (h : r.holds n = true) : r.first ≤ n ∧ n ≤ r.last := by
  simp only [holds, Bool.and_eq_true, decide_eq_true_eq] at h
  exact h.1

theorem testBit_bits {r : Run} {n : Nat} (h : r.holds n = true) : r.bits.testBit n = true := by
  obtain ⟨hfirst, hlast⟩ := bounds_of_holds h
  simp only [holds, Bool.and_eq_true, beq_iff_eq] at h
  have hn : (n - r.first) / r.step * r.step = n - r.first :=
    Nat.div_mul_cancel (Nat.dvd_of_mod_eq_zero h.2)
  have hle : (n - r.first) / r.step ≤ (r.last - r.first) / r.step :=
    Nat.div_le_div_right (by omega)
  exact testBit_pointBits.2 ⟨(n - r.first) / r.step, by omega, by omega⟩

theorem holds_of_testBit {r : Run} {n : Nat} (hr : r.first ≤ r.last)
    (h : r.bits.testBit n = true) : r.holds n = true := by
  obtain ⟨k, hk, rfl⟩ := testBit_pointBits.1 h
  have hlast : k * r.step ≤ r.last - r.first :=
    Nat.mul_le_of_le_div _ _ _ (Nat.le_of_lt_succ hk)
  simp only [holds, Nat.add_sub_cancel_left, Nat.mul_mod_left, Bool.and_eq_true,
    decide_eq_true_eq, beq_self_eq_true, and_true]
  omega

end Run

/-- The bits of a table. -/
def mask : List Run → Nat
  | [] => 0
  | r :: runs => r.bits ||| mask runs

theorem testBit_mask {runs : List Run} {n : Nat} (h : inRuns runs n = true) :
    (mask runs).testBit n = true := by
  induction runs with
  | nil => cases h
  | cons r runs ih =>
    rw [mask, Nat.testBit_or, Bool.or_eq_true]
    rw [inRuns, List.any_cons, Bool.or_eq_true] at h
    exact h.imp Run.testBit_bits ih

theorem inRuns_of_testBit {runs : List Run} {n : Nat} (hruns : ∀ r ∈ runs, r.first ≤ r.last)
    (h : (mask runs).testBit n = true) : inRuns runs n = true := by
  induction runs with
  | nil => simp [mask] at h
  | cons r runs ih =>
    rw [List.forall_mem_cons] at hruns
    rw [mask, Nat.testBit_or, Bool.or_eq_true] at h
    rw [inRuns, List.any_cons, Bool.or_eq_true]
    exact h.imp (Run.holds_of_testBit hruns.1) (ih hruns.2)

/-- Tables without a common bit have no common code point. -/
theorem inRuns_eq_false {runs others : List Run} (h : mask runs &&& mask others = 0) {n : Nat}
    (hn : inRuns runs n = true) : inRuns others n = false := by
  rw [← Bool.not_eq_true]
  intro hother
  have hboth := Nat.testBit_and (mask runs) (mask others) n
  rw [h, testBit_mask hn, testBit_mask hother, Nat.zero_testBit] at hboth
  cases hboth

/-- The bits of code points that are shifted. -/
def shiftBits (m : Nat) : Int → Nat
  | .ofNat k => m <<< k
  | .negSucc k => m >>> (k + 1)

theorem testBit_shiftBits {m n : Nat} {d : Int} (hd : 0 ≤ (n : Int) + d)
    (h : m.testBit n = true) : (shiftBits m d).testBit ((n : Int) + d).toNat = true := by
  cases d with
  | ofNat k =>
    have hbit : ((n : Int) + Int.ofNat k).toNat = n + k := by
      rw [Int.ofNat_eq_natCast]
      omega
    rw [shiftBits, hbit, Nat.testBit_shiftLeft, Nat.add_sub_cancel, h]
    simp
  | negSucc k =>
    have hbit : k + 1 + ((n : Int) + Int.negSucc k).toNat = n := by
      rw [Int.negSucc_eq] at hd ⊢
      omega
    rw [shiftBits, Nat.testBit_shiftRight, hbit, h]

/-- The bits of the upper-case forms that are single characters. -/
def formMask : List CaseRun → Nat
  | [] => 0
  | r :: runs => shiftBits r.run.bits r.shift ||| formMask runs

theorem testBit_formMask {runs : List CaseRun} {r : CaseRun} {n : Nat} (hr : r ∈ runs)
    (hn : r.run.holds n = true) (hshift : 0 ≤ (r.run.first : Int) + r.shift) :
    (formMask runs).testBit ((n : Int) + r.shift).toNat = true := by
  induction runs with
  | nil => cases hr
  | cons q runs ih =>
    rw [formMask, Nat.testBit_or, Bool.or_eq_true]
    refine (List.mem_cons.1 hr).imp (fun heq => ?_) ih
    rw [← heq]
    have hfirst := (Run.bounds_of_holds hn).1
    exact testBit_shiftBits (by omega) (Run.testBit_bits hn)

/-! ## The tables -/

/-- The code points of all upper-case characters. -/
def capitalRuns : List Run := ⟨65, 90, 1⟩ :: upperRuns

/-- The code points beyond ASCII whose upper-case form is not the character itself. -/
def changedRuns : List Run :=
  caseRuns.map CaseRun.run ++ longUpperForms.map fun f => ⟨f.1, f.1, 1⟩

/-- The code points of all spaces. -/
def spaceRuns : List Run :=
  [⟨9, 13, 1⟩, ⟨0x20, 0x20, 1⟩, ⟨0x85, 0x85, 1⟩, ⟨0xa0, 0xa0, 1⟩, ⟨0x1680, 0x1680, 1⟩,
   ⟨0x2000, 0x200a, 1⟩, ⟨0x2028, 0x2029, 1⟩, ⟨0x202f, 0x202f, 1⟩, ⟨0x205f, 0x205f, 1⟩,
   ⟨0x3000, 0x3000, 1⟩]

/-- What holds of the tables.  It is stated in one place, so that they are gone through once. -/
structure TablesHold : Prop where
  /-- An upper-case character is its own upper-case form. -/
  notChanged : mask capitalRuns &&& mask changedRuns = 0
  notSpace : mask capitalRuns &&& mask spaceRuns = 0
  valid : (capitalRuns.all fun r => r.first ≤ r.last &&
    (r.last < 0xd800 || 0xdfff < r.first && r.last < 0x110000)) = true
  wide : (upperRuns.all fun r => decide (128 ≤ r.first)) = true
  shift : (caseRuns.all fun r => decide (0 ≤ (r.run.first : Int) + r.shift)) = true
  /-- The upper-case forms of single characters are upper-case. -/
  capital : mask capitalRuns ||| formMask caseRuns = mask capitalRuns
  /-- The upper-case forms of several characters start with an upper-case one, but for one form,
  and hold no space. -/
  longForms : (longUpperForms.all fun f =>
    (f.1 == 0x149 || f.2.head?.any fun n => (mask capitalRuns).testBit n) &&
      f.2.all fun n => (n < 0xd800) && !inRuns spaceRuns n) = true

/-- The tables are gone through.  Proofs take what holds of them as a hypothesis, so that none
of them looks into how it was found. -/
theorem tablesHold : TablesHold := by
  constructor
  all_goals decide +kernel

/-- The bits of upper-case characters are those of their code points. -/
theorem inRuns_capitalRuns {n : Nat} (h : (mask capitalRuns).testBit n = true) :
    inRuns capitalRuns n = true := by
  have htables := tablesHold
  refine inRuns_of_testBit (fun r hr => ?_) h
  have hvalid := List.all_eq_true.1 htables.valid r hr
  rw [Bool.and_eq_true] at hvalid
  exact of_decide_eq_true hvalid.1

/-! ## Upper-case characters -/

theorem isUpper_eq (c : Char) : isUpper c = inRuns capitalRuns c.toNat := by
  have htables := tablesHold
  have hascii : inRuns capitalRuns c.toNat =
      (Run.holds ⟨65, 90, 1⟩ c.toNat || inRuns upperRuns c.toNat) := rfl
  rw [isUpper, hascii]
  split
  · rename_i hc
    have hnone : inRuns upperRuns c.toNat = false := by
      rw [← Bool.not_eq_true]
      intro hin
      obtain ⟨r, hr, hholds⟩ := List.any_eq_true.1 hin
      have hbounds := Run.bounds_of_holds hholds
      have hfirst := of_decide_eq_true (List.all_eq_true.1 htables.wide r hr)
      omega
    rw [hnone]
    simp [Run.holds, Nat.mod_one, Char.le_def, UInt32.le_iff_toNat_le]
  · rename_i hc
    have hfirst : Run.holds ⟨65, 90, 1⟩ c.toNat = false := by
      simp [Run.holds]
      omega
    rw [hfirst, Bool.false_or]

theorem isSpace_eq (c : Char) : isSpace c = inRuns spaceRuns c.toNat := by
  rw [Bool.eq_iff_iff]
  simp only [isSpace, inRuns, spaceRuns, Run.holds, List.any_cons, List.any_nil, Bool.or_eq_true,
    Bool.and_eq_true, decide_eq_true_eq, beq_iff_eq, Nat.mod_one, and_true, Bool.or_false]
  omega

theorem toNat_ofNat {n : Nat} (h : n.isValidChar) : (Char.ofNat n).toNat = n := by
  rw [Char.ofNat, dif_pos h]
  rfl

/-- The character of an upper-case code point. -/
theorem isUpper_ofNat {n : Nat} (h : inRuns capitalRuns n = true) :
    isUpper (Char.ofNat n) = true := by
  have htables := tablesHold
  obtain ⟨r, hr, hholds⟩ := List.any_eq_true.1 h
  have hbounds := Run.bounds_of_holds hholds
  have hvalid := List.all_eq_true.1 htables.valid r hr
  simp only [Bool.or_eq_true, Bool.and_eq_true, decide_eq_true_eq] at hvalid
  have hchar : n.isValidChar := by
    simp only [Nat.isValidChar]
    omega
  rw [isUpper_eq, toNat_ofNat hchar]
  exact h

theorem isSpace_of_isUpper {c : Char} (h : isUpper c = true) : isSpace c = false := by
  have htables := tablesHold
  rw [isUpper_eq] at h
  rw [isSpace_eq]
  exact inRuns_eq_false htables.notSpace h

/-! ## Upper-case forms -/

/-- What becomes of a character of ASCII. -/
theorem upperCase_ascii :
    ∀ n < 128, (isUpper (Char.ofNat n) = true → (Char.ofNat n).toUpper = Char.ofNat n) ∧
      ((Char.ofNat n).toUpper = Char.ofNat n ∨ isUpper (Char.ofNat n).toUpper = true) := by
  decide +kernel

/-- The upper-case form of a character beyond ASCII, by the table that it stands in. -/
theorem upperCase_wide {c : Char} (hc : ¬ c.toNat < 128) :
    (∃ f ∈ longUpperForms, f.1 = c.toNat ∧ upperCase c = f.2.map Char.ofNat) ∨
      (∃ d, upperCase c = [d] ∧ isUpper d = true) ∨
      upperCase c = [c] := by
  have htables := tablesHold
  rw [upperCase, if_neg hc]
  split
  · rename_i k form hfind
    have hk := List.find?_some hfind
    exact .inl ⟨(k, form), List.mem_of_find?_eq_some hfind, by simpa using hk, rfl⟩
  · split
    · rename_i r hfind
      have hholds := List.find?_some hfind
      have hr := List.mem_of_find?_eq_some hfind
      have hshift := of_decide_eq_true (List.all_eq_true.1 htables.shift r hr)
      have hbit : (mask capitalRuns).testBit ((c.toNat : Int) + r.shift).toNat = true := by
        rw [← htables.capital, Nat.testBit_or, testBit_formMask hr hholds hshift, Bool.or_true]
      exact .inr (.inl ⟨_, rfl, isUpper_ofNat (inRuns_capitalRuns hbit)⟩)
    · exact .inr (.inr rfl)

/-- **An upper-case form starts with an upper-case character**, unless it is the character
itself.  The one exception is `ŉ`, whose form starts with an apostrophe. -/
theorem upperCase_cases (c : Char) :
    upperCase c = [c] ∨ (∃ d more, upperCase c = d :: more ∧ isUpper d = true) ∨ c = 'ŉ' := by
  have htables := tablesHold
  by_cases hc : c.toNat < 128
  · have hascii := (upperCase_ascii c.toNat hc).2
    rw [Char.ofNat_toNat] at hascii
    rw [upperCase, if_pos hc]
    rcases hascii with hsame | hupper
    · exact .inl (by rw [hsame])
    · exact .inr (.inl ⟨_, [], rfl, hupper⟩)
  · rcases upperCase_wide hc with ⟨f, hf, hkey, hform⟩ | ⟨d, hd, hupper⟩ | hsame
    · have hchecked := List.all_eq_true.1 htables.longForms f hf
      simp only [Bool.and_eq_true, Bool.or_eq_true, beq_iff_eq] at hchecked
      rcases hchecked.1 with hexception | hhead
      · refine .inr (.inr ?_)
        rw [← Char.ofNat_toNat c, ← hkey, hexception]
      · obtain ⟨n, hn, hcapital⟩ := (Option.any_eq_true _ _).1 hhead
        obtain ⟨more, hmore⟩ := List.head?_eq_some_iff.1 hn
        exact .inr (.inl ⟨_, more.map Char.ofNat, by rw [hform, hmore, List.map_cons],
          isUpper_ofNat (inRuns_capitalRuns hcapital)⟩)
    · exact .inr (.inl ⟨d, [], hd, hupper⟩)
    · exact .inl hsame

/-- **An upper-case character is its own upper-case form.** -/
theorem upperCase_of_isUpper {c : Char} (h : isUpper c = true) : upperCase c = [c] := by
  have htables := tablesHold
  by_cases hc : c.toNat < 128
  · have hascii := (upperCase_ascii c.toNat hc).1
    rw [Char.ofNat_toNat] at hascii
    rw [upperCase, if_pos hc, hascii h]
  · have hnone := inRuns_eq_false htables.notChanged (isUpper_eq c ▸ h)
    rw [changedRuns, inRuns, List.any_append, Bool.or_eq_false_iff, List.any_eq_false,
      List.any_eq_false] at hnone
    have hlong : longUpperForms.find? (·.1 == c.toNat) = none := by
      rw [List.find?_eq_none]
      intro f hf heq
      refine hnone.2 _ (List.mem_map_of_mem hf) ?_
      simp only [beq_iff_eq] at heq
      simp [Run.holds, heq]
    have hshort : caseRuns.find? (·.run.holds c.toNat) = none := by
      rw [List.find?_eq_none]
      exact fun r hr => hnone.1 _ (List.mem_map_of_mem hr)
    rw [upperCase, if_neg hc, hlong, hshort]

/-- Capitalising makes no space. -/
theorem isSpace_upperCase {c : Char} (h : isSpace c = false) :
    ∀ d ∈ upperCase c, isSpace d = false := by
  have htables := tablesHold
  by_cases hc : c.toNat < 128
  · have hascii := (upperCase_ascii c.toNat hc).2
    rw [Char.ofNat_toNat] at hascii
    rw [upperCase, if_pos hc]
    intro d hd
    rw [List.mem_singleton.1 hd]
    rcases hascii with hsame | hupper
    · rwa [hsame]
    · exact isSpace_of_isUpper hupper
  · rcases upperCase_wide hc with ⟨f, hf, -, hform⟩ | ⟨d, hd, hupper⟩ | hsame
    · intro d hd
      rw [hform] at hd
      obtain ⟨n, hn, rfl⟩ := List.mem_map.1 hd
      have hchecked := List.all_eq_true.1 htables.longForms f hf
      simp only [Bool.and_eq_true] at hchecked
      have hpoint := List.all_eq_true.1 hchecked.2 n hn
      simp only [Bool.and_eq_true, decide_eq_true_eq, Bool.not_eq_true'] at hpoint
      rw [isSpace_eq, toNat_ofNat (.inl hpoint.1)]
      exact hpoint.2
    · intro e he
      rw [hd, List.mem_singleton] at he
      exact he ▸ isSpace_of_isUpper hupper
    · rw [hsame]
      simpa using h

/-! ## Trimmed texts -/

theorem trimEnd_eq (s : Text) : trimEnd s = s.rdropWhile isSpace := rfl

/-- A text is trimmed already if there are no spaces at its ends. -/
theorem trim_of_ends {s : Text} (hhead : ∀ c ∈ s.head?, isSpace c = false)
    (hlast : ∀ c ∈ s.getLast?, isSpace c = false) : trim s = s := by
  have hstart : trimStart s = s := by
    cases s with
    | nil => rfl
    | cons c s => rw [trimStart, List.dropWhile_cons_of_neg (by simp [hhead c rfl])]
  rw [trim, hstart, trimEnd_eq, List.rdropWhile_eq_self_iff]
  intro hs hspace
  rw [hlast _ (List.getLast?_eq_some_getLast hs)] at hspace
  cases hspace

/-- A trimmed text has no spaces at its ends. -/
theorem trim_ends (s : Text) :
    (∀ c ∈ (trim s).head?, isSpace c = false) ∧ ∀ c ∈ (trim s).getLast?, isSpace c = false := by
  constructor
  · intro c hc
    obtain ⟨more, hmore⟩ := List.head?_eq_some_iff.1 hc
    -- What is left starts as it did before its end was trimmed.
    obtain ⟨tail, htail⟩ := List.rdropWhile_prefix isSpace (trimStart s)
    rw [← trimEnd_eq, ← trim, hmore, List.cons_append] at htail
    have hhead := List.head?_dropWhile_not isSpace s
    rw [← trimStart, ← htail] at hhead
    simpa using hhead
  · intro c hc
    obtain ⟨init, hinit⟩ := List.getLast?_eq_some_iff.1 hc
    rw [trim, trimEnd_eq] at hinit
    have hlast := List.rdropWhile_last_not isSpace (trimStart s) (by rw [hinit]; simp)
    simpa [hinit] using hlast

end Text

end Componentry
