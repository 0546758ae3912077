import Componentry.Namespace

/-! # Maps of names

Maps are lists of entries in the order of their keys.  For maps whose keys are names
this module says what is found under a name: the last value that was given to it
(`Value.member?_ofNamed`), also where the map is a template's data
(`Value.member?_scope`), and which slot sources such a map carries
(`Value.mem_slotSources_ofNamed`).
-/
namespace Componentry

/-- Among items whose names are distinct, an item is found under its name. -/
theorem find?_of_nodup {α : Type} (name : α → Text) {items : List α}
    (h : (items.map name).Nodup) {a : α} (ha : a ∈ items) :
    items.find? (fun b => name b = name a) = some a := by
  induction items with
  | nil => cases ha
  | cons first items ih =>
    rw [List.map_cons, List.nodup_cons] at h
    rcases List.mem_cons.1 ha with rfl | ha
    · rw [List.find?_cons_of_pos (by simp)]
    · have hne : name first ≠ name a := by
        intro heq
        rw [heq] at h
        exact h.1 (List.mem_map_of_mem ha)
      rw [List.find?_cons_of_neg (by simpa using hne)]
      exact ih h.2 ha

theorem find?_reverse_of_nodup {α : Type} (name : α → Text) {items : List α}
    (h : (items.map name).Nodup) {a : α} (ha : a ∈ items) :
    items.reverse.find? (fun b => name b = name a) = some a := by
  refine find?_of_nodup name ?_ (List.mem_reverse.2 ha)
  rw [List.map_reverse]
  exact List.pairwise_reverse.2 (h.imp Ne.symm)

/-! ## The order of texts -/

/-- Sorted items are told by which ones there are, and how often. -/
theorem mergeSort_eq_iff_perm {α : Type} {order : α → α → Ordering} [Std.TransCmp order]
    [Std.LawfulEqCmp order] {items items' : List α} :
    (items.mergeSort fun a b => (order a b).isLE) = (items'.mergeSort fun a b => (order a b).isLE) ↔
      items.Perm items' := by
  constructor
  · intro h
    exact (List.mergeSort_perm items _).symm.trans (h ▸ List.mergeSort_perm items' _)
  · intro h
    have hsorted : ∀ items : List α, (items.mergeSort fun a b => (order a b).isLE).Pairwise
        fun a b => (order a b).isLE = true :=
      List.pairwise_mergeSort (fun _ _ _ => Std.TransCmp.isLE_trans) fun a b => by
        have hswap : order b a = (order a b).swap := Std.OrientedCmp.eq_swap
        rw [hswap]
        cases order a b <;> rfl
    refine List.Perm.eq_of_pairwise (fun a b _ _ hab hba => ?_) (hsorted items) (hsorted items')
      ((List.mergeSort_perm items _).trans (h.trans (List.mergeSort_perm items' _).symm))
    exact Std.LawfulEqCmp.eq_of_compare (Std.OrientedCmp.isLE_antisymm hab hba)

namespace Text

theorem order_self (s : Text) : order s s = .eq := by
  induction s with
  | nil => rfl
  | cons c s ih => simp [order, ih]

theorem eq_of_order {s t : Text} (h : order s t = .eq) : s = t := by
  induction s generalizing t with
  | nil =>
    cases t with
    | nil => rfl
    | cons b t => cases h
  | cons a s ih =>
    cases t with
    | nil => cases h
    | cons b t =>
      rw [order, Ordering.then_eq_eq, Nat.compare_eq_eq] at h
      rw [Char.toNat_inj.1 h.1, ih h.2]

theorem order_eq_compareLex (s t : Text) :
    order s t = List.compareLex (compareOn Char.toNat) s t := by
  induction s generalizing t with
  | nil => cases t <;> rfl
  | cons a s ih =>
    cases t with
    | nil => rfl
    | cons b t =>
      rw [order, ih, List.compareLex_cons_cons]
      rfl

instance : Std.TransCmp order := by
  rw [funext fun s => funext fun t => order_eq_compareLex s t]
  infer_instance

instance : Std.LawfulEqCmp order where
  compare_self {s} := order_self s
  eq_of_compare h := eq_of_order h

end Text

namespace Template.Value

/-! ## Entries under names -/

/-- Entries with names as their keys. -/
def named (entries : List (Text × Value)) : List (Value × Value) :=
  entries.map fun e => (ofText e.1, e.2)

/-- The first value of a name. -/
def first? (x : Text) (entries : List (Text × Value)) : Option Value :=
  (entries.find? fun e => e.1 = x).map Prod.snd

/-- The last value of a name. -/
def last? (x : Text) (entries : List (Text × Value)) : Option Value := first? x entries.reverse

/-- Gives a name a value, in the order of names. -/
def insertNamed (key : Text) (value : Value) : List (Text × Value) → List (Text × Value)
  | [] => [(key, value)]
  | (k, v) :: more =>
    match Text.order key k with
    | .lt => (key, value) :: (k, v) :: more
    | .eq => (k, value) :: more
    | .gt => (k, v) :: insertNamed key value more

/-- The entries of a map of names, in the order of the names. -/
def sorted (entries : List (Text × Value)) : List (Text × Value) :=
  entries.foldl (fun done e => insertNamed e.1 e.2 done) []

theorem insert_named (key : Text) (value : Value) (entries : List (Text × Value)) :
    insert (ofText key) value (named entries) = named (insertNamed key value entries) := by
  induction entries with
  | nil => rfl
  | cons e entries ih =>
    obtain ⟨k, v⟩ := e
    have horder : order (ofText key) (ofText k) = Text.order key k := rfl
    have hcons : named ((k, v) :: entries) = (ofText k, v) :: named entries := rfl
    rw [hcons, insert, insertNamed, horder]
    cases Text.order key k with
    | lt => rfl
    | eq => rfl
    | gt =>
      simp only [ih]
      rfl

theorem ofNamed_eq (entries : List (Text × Value)) : ofNamed entries = .map (named (sorted entries)) := by
  have hfold : ∀ done : List (Text × Value),
      (named entries).foldl (fun done e => insert e.1 e.2 done) (named done) =
        named (entries.foldl (fun done e => insertNamed e.1 e.2 done) done) := by
    induction entries with
    | nil => exact fun _ => rfl
    | cons e entries ih =>
      intro done
      simp only [named, List.map_cons, List.foldl_cons] at *
      have hinsert := insert_named e.1 e.2 done
      simp only [named] at hinsert
      rw [hinsert, ih]
  exact congrArg Value.map (hfold [])

theorem lookup_named (x : Text) (entries : List (Text × Value)) :
    lookup (ofText x) (named entries) = first? x entries := by
  induction entries with
  | nil => rfl
  | cons e entries ih =>
    have horder : order (ofText x) (ofText e.1) = Text.order x e.1 := rfl
    simp only [lookup, first?, named, List.map_cons, List.find?_cons, horder] at *
    by_cases h : e.1 = x
    · simp [h, Text.order_self]
    · have hne : (Text.order x e.1).isEq = false := by
        cases hx : Text.order x e.1 with
        | eq => exact absurd (Text.eq_of_order hx).symm h
        | lt | gt => rfl
      simp only [hne, h, decide_false]
      exact ih

theorem first?_insertNamed (x key : Text) (value : Value) (entries : List (Text × Value)) :
    first? x (insertNamed key value entries) =
      if key = x then some value else first? x entries := by
  induction entries with
  | nil => by_cases h : key = x <;> simp [insertNamed, first?, h]
  | cons e entries ih =>
    obtain ⟨k, v⟩ := e
    rw [insertNamed]
    split
    · by_cases h : key = x <;> simp [first?, h]
    · rename_i heq
      obtain rfl := Text.eq_of_order heq
      by_cases h : key = x <;> simp [first?, h]
    · rename_i hgt
      simp only [first?, List.find?_cons] at ih ⊢
      by_cases hk : k = x
      · have hne : key ≠ x := by
          rintro rfl
          rw [hk, Text.order_self] at hgt
          cases hgt
        simp [hk, hne]
      · simp only [hk, decide_false]
        exact ih

/-- Entries whose names are in order. -/
def InOrder (entries : List (Text × Value)) : Prop :=
  entries.Pairwise fun e f => Text.order e.1 f.1 = .lt

theorem mem_insertNamed {key : Text} {value : Value} {entries : List (Text × Value)}
    {e : Text × Value} (h : e ∈ insertNamed key value entries) : e.1 = key ∨ e ∈ entries := by
  induction entries with
  | nil => exact Or.inl (by rw [List.mem_singleton.1 h])
  | cons first entries ih =>
    obtain ⟨k, v⟩ := first
    rw [insertNamed] at h
    split at h
    · rcases List.mem_cons.1 h with rfl | h
      · exact Or.inl rfl
      · exact Or.inr h
    · rename_i heq
      rcases List.mem_cons.1 h with rfl | h
      · exact Or.inl (Text.eq_of_order heq).symm
      · exact Or.inr (List.mem_cons_of_mem _ h)
    · rcases List.mem_cons.1 h with rfl | h
      · exact Or.inr List.mem_cons_self
      · exact (ih h).imp_right (List.mem_cons_of_mem _)

theorem InOrder.insertNamed {entries : List (Text × Value)} (h : InOrder entries) (key : Text)
    (value : Value) : InOrder (insertNamed key value entries) := by
  induction entries with
  | nil => exact List.pairwise_singleton _ _
  | cons first entries ih =>
    obtain ⟨k, v⟩ := first
    obtain ⟨hfirst, hrest⟩ := List.pairwise_cons.1 h
    rw [Value.insertNamed]
    split
    · rename_i hlt
      refine List.pairwise_cons.2 ⟨?_, h⟩
      intro e he
      rcases List.mem_cons.1 he with rfl | he
      · exact hlt
      · exact Std.TransCmp.lt_trans hlt (hfirst e he)
    · exact List.pairwise_cons.2 ⟨hfirst, hrest⟩
    · rename_i hgt
      refine List.pairwise_cons.2 ⟨?_, ih hrest⟩
      intro e he
      rcases mem_insertNamed he with hkey | he
      · rw [hkey]
        exact Std.OrientedCmp.lt_of_gt hgt
      · exact hfirst e he

theorem inOrder_sorted (entries : List (Text × Value)) : InOrder (sorted entries) := by
  have hfold : ∀ done, InOrder done →
      InOrder (entries.foldl (fun done e => Value.insertNamed e.1 e.2 done) done) := by
    induction entries with
    | nil => exact fun _ h => h
    | cons e entries ih => exact fun done h => ih _ (h.insertNamed e.1 e.2)
  exact hfold [] .nil

theorem InOrder.first?_of_mem {entries : List (Text × Value)} (h : InOrder entries)
    {x : Text} {v : Value} (hmem : (x, v) ∈ entries) : first? x entries = some v := by
  induction entries with
  | nil => cases hmem
  | cons e entries ih =>
    obtain ⟨hfirst, hrest⟩ := List.pairwise_cons.1 h
    rcases List.mem_cons.1 hmem with rfl | hmem
    · simp [first?]
    · have hne : e.1 ≠ x := by
        intro heq
        have hlt := hfirst _ hmem
        rw [heq, Text.order_self] at hlt
        cases hlt
      have hrec := ih hrest hmem
      simp only [first?, List.find?_cons, hne, decide_false] at hrec ⊢
      exact hrec

theorem mem_of_first? {entries : List (Text × Value)} {x : Text} {v : Value}
    (h : first? x entries = some v) : (x, v) ∈ entries := by
  obtain ⟨e, he, rfl⟩ := Option.map_eq_some_iff.1 h
  have hname := List.find?_some he
  have hmem := List.mem_of_find?_eq_some he
  rw [← of_decide_eq_true hname]
  exact hmem

theorem mem_of_last? {entries : List (Text × Value)} {x : Text} {v : Value}
    (h : last? x entries = some v) : (x, v) ∈ entries := List.mem_reverse.1 (mem_of_first? h)

theorem last?_append (x : Text) (entries more : List (Text × Value)) :
    last? x (entries ++ more) = (last? x more).or (last? x entries) := by
  simp only [last?, first?, List.reverse_append, List.find?_append]
  cases more.reverse.find? fun e => e.1 = x <;> rfl

theorem last?_cons (x : Text) (e : Text × Value) (entries : List (Text × Value)) :
    last? x (e :: entries) = (last? x entries).or (if e.1 = x then some e.2 else Option.none) := by
  rw [← List.singleton_append, last?_append]
  congr 1
  by_cases h : e.1 = x <;> simp [last?, first?, h]

theorem last?_eq_none {x : Text} {entries : List (Text × Value)} (h : ∀ e ∈ entries, e.1 ≠ x) :
    last? x entries = Option.none := by
  simp only [last?, first?, Option.map_eq_none_iff, List.find?_eq_none, List.mem_reverse,
    decide_eq_true_eq]
  exact h

theorem last?_of_nodup {entries : List (Text × Value)} (h : (entries.map Prod.fst).Nodup)
    {e : Text × Value} (he : e ∈ entries) : last? e.1 entries = some e.2 := by
  rw [last?, first?, find?_reverse_of_nodup Prod.fst h he]
  rfl

/-- Names in order stand once each, so the first value of a name is its last. -/
theorem InOrder.last?_eq {entries : List (Text × Value)} (h : InOrder entries) (x : Text) :
    last? x entries = first? x entries := by
  cases hf : first? x entries with
  | none =>
    simp only [first?, last?, Option.map_eq_none_iff, List.find?_eq_none, List.mem_reverse] at hf ⊢
    exact hf
  | some v =>
    cases hl : last? x entries with
    | none =>
      simp only [last?, first?, Option.map_eq_none_iff, List.find?_eq_none, List.mem_reverse] at hl
      have hmem := mem_of_first? hf
      exact absurd (decide_eq_true rfl) (hl _ hmem)
    | some w =>
      have hmem := List.mem_reverse.1 (mem_of_first? hl)
      rw [← hf, ← h.first?_of_mem hmem]

theorem first?_sorted (x : Text) (entries : List (Text × Value)) :
    first? x (sorted entries) = last? x entries := by
  have hfold : ∀ done, first? x (entries.foldl (fun done e => Value.insertNamed e.1 e.2 done) done) =
      (last? x entries).or (first? x done) := by
    induction entries with
    | nil => exact fun _ => rfl
    | cons e entries ih =>
      intro done
      rw [List.foldl_cons, ih, first?_insertNamed, last?_cons, Option.or_assoc]
      congr 1
      by_cases h : e.1 = x <;> simp [h]
  have hnil : first? x [] = Option.none := rfl
  rw [sorted, hfold [], hnil, Option.or_none]

/-! ## Maps of names -/

/-- **Under a name stands the last value that was given to it.** -/
theorem member?_ofNamed (x : Text) (entries : List (Text × Value)) :
    (ofNamed entries).member? x = last? x entries := by
  rw [ofNamed_eq, ← first?_sorted, ← lookup_named]
  rfl

theorem named_text (entries : List (Text × Value)) :
    ((named entries).filterMap fun (k, v) => k.text?.map fun name => (name, v)) = entries := by
  induction entries with
  | nil => rfl
  | cons e entries ih =>
    simp only [named, List.map_cons, List.filterMap_cons] at ih ⊢
    rw [ih]
    rfl

/-- The data of a template holds the entries of the map, and the map itself. -/
theorem member?_scope (x : Text) (entries : List (Text × Value)) :
    (ofNamed entries).scope.member? x =
      if x = Attribute.contextVar then some (ofNamed entries) else last? x entries := by
  have hentries : (ofNamed entries).entries = named (sorted entries) := by
    rw [ofNamed_eq]
    rfl
  rw [scope, hentries, named_text, member?_ofNamed, last?_append,
    (inOrder_sorted entries).last?_eq, first?_sorted]
  by_cases h : x = Attribute.contextVar
  · simp [last?, first?, h]
  · simp [last?, first?, h, Ne.symm h]

/-- The slot sources of a map of names. -/
theorem mem_slotSources_ofNamed {label source : Text} {entries : List (Text × Value)} :
    (label, source) ∈ (ofNamed entries).slotSources ↔
      isComponentName label = true ∧ last? label entries = some (.deferred source) := by
  have hentries : (ofNamed entries).entries = named (sorted entries) := by
    rw [ofNamed_eq]
    rfl
  rw [← first?_sorted, slotSources, hentries, named, List.filterMap_map, List.mem_filterMap]
  constructor
  · rintro ⟨⟨k, v⟩, hmem, hsome⟩
    cases v with
    | deferred s =>
      simp only [Function.comp, text?, ofText, source?, Option.bind_eq_bind, Option.bind_some] at hsome
      split at hsome
      · rename_i hname
        cases hsome
        exact ⟨hname, (inOrder_sorted entries).first?_of_mem hmem⟩
      · cases hsome
    | _ => cases hsome
  · rintro ⟨hname, hfirst⟩
    refine ⟨_, mem_of_first? hfirst, ?_⟩
    simp [text?, ofText, source?, hname]

/-- The data of an object are a map of names. -/
theorem ofJson_object (fields : List (Text × Json)) :
    ofJson (.object fields) = .ofNamed (fields.map fun f => (f.1, .ofJson f.2)) := by
  have hfields : ofJsonFields fields =
      (fields.map fun f => (f.1, ofJson f.2)).map fun e => (ofText e.1, e.2) := by
    induction fields with
    | nil => rfl
    | cons f fields ih =>
      rw [ofJsonFields, ih]
      rfl
  rw [ofJson, hfields]
  rfl

end Template.Value

end Componentry
