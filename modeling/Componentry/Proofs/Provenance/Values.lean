import Componentry.Namespace

/-! # Trusted values

A value is **trusted** under a policy if every slot source, every function and every macro
in it, at any depth, passes the policy's tests.  All that operators, filters and the plain
functions make of trusted values is trusted: they take values apart and put the parts
together again, but none of them makes a slot source out of a text.
-/
namespace Componentry.Template

/-- What a value may hold. -/
structure Policy where
  /-- Which slot sources. -/
  sources : Text → Bool
  /-- Which functions. -/
  functions : Function → Bool
  /-- Which macros. -/
  code : Macro → Bool

namespace Value

mutual

/-- Whether all slot sources and functions in a value pass the tests of a policy. -/
def isTrusted (p : Policy) : Value → Bool
  | list items | iterable items => areTrusted p items
  | map entries | record _ entries => entriesTrusted p entries
  | deferred source => p.sources source
  | function f => p.functions f
  | routine code _ => p.code code
  | _ => true
termination_by structural v => v

/-- Whether all items are trusted. -/
def areTrusted (p : Policy) : List Value → Bool
  | [] => true
  | v :: more => isTrusted p v && areTrusted p more
termination_by structural vs => vs

/-- Whether all keys and values are trusted. -/
def entriesTrusted (p : Policy) : List (Value × Value) → Bool
  | [] => true
  | (k, v) :: more => isTrusted p k && isTrusted p v && entriesTrusted p more
termination_by structural es => es

end

/-- A trusted value. -/
def Trusted (p : Policy) (v : Value) : Prop := v.isTrusted p = true

/-- An entry whose key and value are trusted. -/
def TrustedEntry (p : Policy) (e : Value × Value) : Prop := e.1.Trusted p ∧ e.2.Trusted p

variable {p : Policy}

theorem areTrusted_iff {items : List Value} :
    areTrusted p items = true ↔ ∀ v ∈ items, v.Trusted p := by
  induction items with
  | nil => simp [areTrusted]
  | cons v items ih => simp [areTrusted, ih, Trusted]

theorem entriesTrusted_iff {entries : List (Value × Value)} :
    entriesTrusted p entries = true ↔ ∀ e ∈ entries, TrustedEntry p e := by
  induction entries with
  | nil => simp [entriesTrusted]
  | cons e entries ih =>
    obtain ⟨k, v⟩ := e
    simp only [entriesTrusted, Bool.and_eq_true, ih, List.forall_mem_cons]
    rfl

mutual

/-- Where anything passes the tests of a policy, every value is trusted. -/
theorem isTrusted_of_all (hsources : ∀ s, p.sources s = true)
    (hfunctions : ∀ f, p.functions f = true) (hcode : ∀ c, p.code c = true) :
    ∀ v : Value, v.isTrusted p = true
  | list items | iterable items => areTrusted_of_all hsources hfunctions hcode items
  | map entries | record _ entries => entriesTrusted_of_all hsources hfunctions hcode entries
  | deferred source => hsources source
  | function f => hfunctions f
  | routine code _ => hcode code
  | undefined | none | bool _ | int _ | float _ | string .. => rfl

theorem areTrusted_of_all (hsources : ∀ s, p.sources s = true)
    (hfunctions : ∀ f, p.functions f = true) (hcode : ∀ c, p.code c = true) :
    ∀ vs : List Value, areTrusted p vs = true
  | [] => rfl
  | v :: vs => by
    rw [areTrusted, isTrusted_of_all hsources hfunctions hcode v,
      areTrusted_of_all hsources hfunctions hcode vs]
    rfl

theorem entriesTrusted_of_all (hsources : ∀ s, p.sources s = true)
    (hfunctions : ∀ f, p.functions f = true) (hcode : ∀ c, p.code c = true) :
    ∀ es : List (Value × Value), entriesTrusted p es = true
  | [] => rfl
  | (k, v) :: es => by
    rw [entriesTrusted, isTrusted_of_all hsources hfunctions hcode k,
      isTrusted_of_all hsources hfunctions hcode v,
      entriesTrusted_of_all hsources hfunctions hcode es]
    rfl

end

namespace Trusted

@[simp] theorem undefined : Trusted p .undefined := rfl
@[simp] theorem none : Trusted p .none := rfl
@[simp] theorem bool (b : Bool) : Trusted p (.bool b) := rfl
@[simp] theorem int (n : Int) : Trusted p (.int n) := rfl
@[simp] theorem float (x : Float) : Trusted p (.float x) := rfl
@[simp] theorem string (s : Text) (safe : Bool) : Trusted p (.string s safe) := rfl
@[simp] theorem ofText (s : Text) : Trusted p (.ofText s) := rfl
@[simp] theorem ofMarkup (s : Text) : Trusted p (.ofMarkup s) := rfl

@[simp] theorem list_iff {items : List Value} :
    Trusted p (.list items) ↔ ∀ v ∈ items, v.Trusted p := areTrusted_iff

@[simp] theorem iterable_iff {items : List Value} :
    Trusted p (.iterable items) ↔ ∀ v ∈ items, v.Trusted p := areTrusted_iff

@[simp] theorem map_iff {entries : List (Value × Value)} :
    Trusted p (.map entries) ↔ ∀ e ∈ entries, TrustedEntry p e := entriesTrusted_iff

@[simp] theorem record_iff {form : Form} {entries : List (Value × Value)} :
    Trusted p (.record form entries) ↔ ∀ e ∈ entries, TrustedEntry p e := entriesTrusted_iff

@[simp] theorem deferred_iff {source : Text} :
    Trusted p (.deferred source) ↔ p.sources source = true :=
  Iff.rfl

@[simp] theorem function_iff {f : Function} :
    Trusted p (.function f) ↔ p.functions f = true :=
  Iff.rfl

@[simp] theorem routine_iff {code : Macro} {closure : Nat} :
    Trusted p (.routine code closure) ↔ p.code code = true :=
  Iff.rfl

/-! ## Parts of trusted values -/

theorem lookup {key v : Value} {entries : List (Value × Value)}
    (h : ∀ e ∈ entries, TrustedEntry p e) (hv : Value.lookup key entries = some v) :
    v.Trusted p := by
  obtain ⟨e, he, rfl⟩ := Option.map_eq_some_iff.1 hv
  exact (h e (List.mem_of_find?_eq_some he)).2

theorem entries? {v : Value} {entries : List (Value × Value)} (h : v.Trusted p)
    (hv : v.entries? = some entries) : ∀ e ∈ entries, TrustedEntry p e := by
  cases v with
  | map es =>
    cases hv
    exact map_iff.1 h
  | record form es =>
    obtain ⟨-, hentries⟩ := Option.ite_none_right_eq_some.1 hv
    cases hentries
    exact record_iff.1 h
  | _ => cases hv

theorem entries {v : Value} (h : v.Trusted p) : ∀ e ∈ v.entries, TrustedEntry p e := by
  rw [Value.entries]
  cases hv : v.entries? with
  | none => simp
  | some entries => exact h.entries? hv

theorem values {entries : List (Value × Value)} (h : ∀ e ∈ entries, TrustedEntry p e) :
    ∀ v ∈ entries.map Prod.snd, v.Trusted p := by
  intro v hv
  obtain ⟨e, he, rfl⟩ := List.mem_map.1 hv
  exact (h e he).2

theorem listItems? {v : Value} {items : List Value} (h : v.Trusted p)
    (hv : v.listItems? = some items) : ∀ w ∈ items, w.Trusted p := by
  cases v with
  | list items =>
    cases hv
    exact list_iff.1 h
  | iterable items =>
    cases hv
    exact iterable_iff.1 h
  | record form es =>
    obtain ⟨-, hitems⟩ := Option.ite_none_left_eq_some.1 hv
    cases hitems
    exact values (record_iff.1 h)
  | _ => cases hv

theorem keys {entries : List (Value × Value)} (h : ∀ e ∈ entries, TrustedEntry p e) :
    ∀ k ∈ entries.map Prod.fst, k.Trusted p := by
  intro k hk
  obtain ⟨e, he, rfl⟩ := List.mem_map.1 hk
  exact (h e he).1

theorem parts? {v : Value} {parts : List Value} (h : v.Trusted p)
    (hv : v.parts? = some parts) : ∀ w ∈ parts, w.Trusted p := by
  rw [Value.parts?] at hv
  cases hitems : v.listItems? with
  | some items =>
    rw [hitems] at hv
    cases hv
    exact h.listItems? hitems
  | none =>
    rw [hitems] at hv
    obtain ⟨entries, hentries, rfl⟩ := Option.map_eq_some_iff.1 hv
    exact keys (h.entries? hentries)

theorem items? {v : Value} {items : List Value} (h : v.Trusted p)
    (hv : v.items? = some items) : ∀ w ∈ items, w.Trusted p := by
  cases v with
  | undefined | none =>
    cases hv
    simp
  | string s safe =>
    cases hv
    intro w hw
    obtain ⟨c, -, rfl⟩ := List.mem_map.1 hw
    exact ofText [c]
  | _ => exact h.parts? hv

theorem pairs? {v : Value} {entries : List (Value × Value)} (h : v.Trusted p)
    (hv : v.pairs? = some entries) : ∀ e ∈ entries, TrustedEntry p e := by
  rw [Value.pairs?] at hv
  cases hitems : v.listItems? with
  | none =>
    rw [hitems] at hv
    exact h.entries? hv
  | some items =>
    rw [hitems] at hv
    cases hv
    intro e he
    obtain ⟨⟨item, i⟩, hmem, rfl⟩ := List.mem_map.1 he
    exact ⟨int i, h.listItems? hitems item (List.fst_mem_of_mem_zipIdx hmem)⟩

/-- What is known of a macro is data. -/
theorem macroEntries (code : Macro) : ∀ e ∈ macroEntries code, TrustedEntry p e := by
  simp [Value.macroEntries, TrustedEntry]

theorem attributes? {v : Value} {entries : List (Value × Value)} (h : v.Trusted p)
    (hv : v.attributes? = some entries) : ∀ e ∈ entries, TrustedEntry p e := by
  cases v with
  | routine code closure =>
    cases hv
    exact macroEntries code
  | record form es =>
    cases hv
    exact record_iff.1 h
  | _ => exact h.entries? hv

theorem member? {v w : Value} {name : Text} (h : v.Trusted p) (hw : v.member? name = some w) :
    w.Trusted p := by
  obtain ⟨entries, hentries, hlookup⟩ := Option.bind_eq_some_iff.1 hw
  exact lookup (h.attributes? hentries) hlookup

theorem item? {v key w : Value} (h : v.Trusted p) (hw : v.item? key = some w) : w.Trusted p := by
  have hitem : ∀ items : List Value, (∀ v ∈ items, v.Trusted p) →
      ((index? key items.length).bind fun i => items[i]?) = some w → w.Trusted p := by
    intro items hitems hsome
    obtain ⟨i, -, hi⟩ := Option.bind_eq_some_iff.1 hsome
    exact hitems w (List.mem_of_getElem? hi)
  cases v with
  | map entries => exact lookup (map_iff.1 h) hw
  | record form entries =>
    rcases Option.or_eq_some_iff.1 hw with hlookup | ⟨-, hposition⟩
    · exact lookup (record_iff.1 h) hlookup
    · obtain ⟨-, hposition⟩ := Option.ite_none_left_eq_some.1 hposition
      obtain ⟨i, -, hi⟩ := Option.bind_eq_some_iff.1 hposition
      obtain ⟨e, he, rfl⟩ := Option.map_eq_some_iff.1 hi
      exact (record_iff.1 h e (List.mem_of_getElem? he)).2
  | routine code closure => exact lookup (macroEntries code) hw
  | list items => exact hitem items (list_iff.1 h) hw
  | iterable items => exact hitem items (iterable_iff.1 h) hw
  | string s safe =>
    obtain ⟨i, -, hi⟩ := Option.bind_eq_some_iff.1 hw
    obtain ⟨c, -, rfl⟩ := Option.map_eq_some_iff.1 hi
    exact ofText [c]
  | _ => simp [Value.item?] at hw

/-! ## Values put together from trusted ones -/

theorem insert {key value : Value} {entries : List (Value × Value)} (hk : key.Trusted p)
    (hv : value.Trusted p) (h : ∀ e ∈ entries, TrustedEntry p e) :
    ∀ e ∈ Value.insert key value entries, TrustedEntry p e := by
  induction entries with
  | nil =>
    intro e he
    rw [List.mem_singleton.1 he]
    exact ⟨hk, hv⟩
  | cons first entries ih =>
    obtain ⟨k, v⟩ := first
    rw [List.forall_mem_cons] at h
    rw [Value.insert]
    split
    · exact List.forall_mem_cons.2 ⟨⟨hk, hv⟩, List.forall_mem_cons.2 h⟩
    · exact List.forall_mem_cons.2 ⟨⟨h.1.1, hv⟩, h.2⟩
    · exact List.forall_mem_cons.2 ⟨h.1, ih h.2⟩

theorem ofEntries {entries : List (Value × Value)} (h : ∀ e ∈ entries, TrustedEntry p e) :
    (Value.ofEntries entries).Trusted p := by
  -- The entries collected so far stay trusted as more are inserted.
  have hfold : ∀ sorted : List (Value × Value), (∀ e ∈ sorted, TrustedEntry p e) →
      ∀ e ∈ entries.foldl (fun sorted e => Value.insert e.1 e.2 sorted) sorted,
        TrustedEntry p e := by
    induction entries with
    | nil => exact fun _ hsorted => hsorted
    | cons first entries ih =>
      obtain ⟨k, v⟩ := first
      rw [List.forall_mem_cons] at h
      intro sorted hsorted
      exact ih h.2 _ (insert h.1.1 h.1.2 hsorted)
  exact map_iff.2 (hfold [] (by simp))

theorem ofNamed {entries : List (Text × Value)} (h : ∀ e ∈ entries, e.2.Trusted p) :
    (Value.ofNamed entries).Trusted p := by
  refine ofEntries ?_
  intro e he
  obtain ⟨named, hmem, rfl⟩ := List.mem_map.1 he
  exact ⟨ofText _, h named hmem⟩

/-! ## Values brought up to date -/

/-- Cells that hold trusted entries. -/
def Held (p : Policy) (cells : Nat → Option (List (Value × Value))) : Prop :=
  ∀ cell entries, cells cell = some entries → ∀ e ∈ entries, TrustedEntry p e

variable {cells : Nat → Option (List (Value × Value))}

mutual

/-- Where cells hold trusted entries, a trusted value stays so as it is brought up to date. -/
theorem update (hcells : Held p cells) : ∀ {v : Value}, v.Trusted p → (v.update cells).Trusted p
  | .list items, h => list_iff.2 (updateItems hcells (list_iff.1 h))
  | .iterable items, h => iterable_iff.2 (updateItems hcells (iterable_iff.1 h))
  | .map entries, h => map_iff.2 (updateEntries hcells (map_iff.1 h))
  | .record form entries, h => by
    have hupdated := updateEntries hcells (record_iff.1 h)
    cases form with
    | space cell =>
      refine record_iff.2 ?_
      cases hcell : cells cell with
      | none => exact record_iff.1 h
      | some entries => exact hcells cell entries hcell
    | _ => exact record_iff.2 hupdated
  | .undefined, h | .none, h | .bool _, h | .int _, h | .float _, h | .string .., h
  | .routine .., h | .deferred _, h | .function _, h => h

theorem updateItems (hcells : Held p cells) : ∀ {items : List Value}, (∀ v ∈ items, v.Trusted p) →
    ∀ v ∈ Value.updateItems cells items, v.Trusted p
  | [], _ => by simp [Value.updateItems]
  | _ :: _, h => by
    rw [List.forall_mem_cons] at h
    exact List.forall_mem_cons.2 ⟨update hcells h.1, updateItems hcells h.2⟩

theorem updateEntries (hcells : Held p cells) :
    ∀ {entries : List (Value × Value)}, (∀ e ∈ entries, TrustedEntry p e) →
      ∀ e ∈ Value.updateEntries cells entries, TrustedEntry p e
  | [], _ => by simp [Value.updateEntries]
  | (k, v) :: _, h => by
    rw [List.forall_mem_cons] at h
    exact List.forall_mem_cons.2 ⟨⟨update hcells h.1.1, update hcells h.1.2⟩,
      updateEntries hcells h.2⟩

end

/-- What cells hold stays trusted as spaces in it are brought up to date. -/
theorem held {m : Memory} (h : ∀ entries ∈ m.spaces, ∀ e ∈ entries, TrustedEntry p e)
    (levels : Nat) : Held p (m.cells levels) := by
  induction levels with
  | zero => exact fun cell entries hcell => h entries (List.mem_of_getElem? hcell)
  | succ levels ih =>
    intro cell entries hcell
    obtain ⟨held, hheld, rfl⟩ := Option.map_eq_some_iff.1 hcell
    exact updateEntries ih (h held (List.mem_of_getElem? hheld))

end Trusted

end Value

end Componentry.Template
