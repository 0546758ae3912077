import Componentry.Proofs.Provenance.Values

/-! # What is computed from trusted values

One lemma for each thing that can be done to values: operators, slices, attributes
and items, filters and tests, and the functions other than the one that makes slot
sources.  Whatever they return is trusted if what they are given is.
-/
namespace Componentry.Template

/-- Whatever a computation returns has a property. -/
def Returns {ε α : Type} (q : α → Prop) (x : Except ε α) : Prop := ∀ a, x = .ok a → q a

namespace Returns

variable {ε α β : Type} {q : α → Prop} {q' : β → Prop}

theorem ok {a : α} (h : q a) : Returns q (.ok a : Except ε α) := by
  rintro b ⟨⟩
  exact h

theorem error {e : ε} : Returns q (.error e : Except ε α) := by
  rintro b ⟨⟩

theorem bind {x : Except ε α} {f : α → Except ε β} (hx : Returns q x)
    (hf : ∀ a, q a → Returns q' (f a)) : Returns q' (x >>= f) := by
  intro b hb
  cases x with
  | error e => cases hb
  | ok a => exact hf a (hx a rfl) b hb

theorem map {x : Except ε α} {f : α → β} (hx : Returns q x) (hf : ∀ a, q a → q' (f a)) :
    Returns q' (x.map f) := by
  intro b hb
  cases x with
  | error e => cases hb
  | ok a =>
    cases hb
    exact hf a (hx a rfl)

theorem any {x : Except ε α} : Returns (fun _ => True) x := fun _ _ => trivial

theorem mapM {x : List α} {f : α → Except ε β} (hf : ∀ a ∈ x, Returns q' (f a)) :
    Returns (fun bs : List β => ∀ b ∈ bs, q' b) (x.mapM f) := by
  induction x with
  | nil =>
    rw [List.mapM_nil]
    exact ok (by simp)
  | cons a x ih =>
    rw [List.forall_mem_cons] at hf
    rw [List.mapM_cons]
    refine bind hf.1 fun b hb => bind (ih hf.2) fun bs hbs => ?_
    exact ok (List.forall_mem_cons.2 ⟨hb, hbs⟩)

end Returns

variable {p : Policy}

/-! ## Operators -/

namespace Operation

open Value (Trusted)

theorem returns_whole (n : Int) : Returns (Trusted p) (whole n) := by
  unfold whole
  split
  · exact .ok (.int n)
  · exact .error

theorem returns_numeric {ints : Int → Int → Except Cause Value} {floats : Float → Float → Float}
    (h : ∀ x y, Returns (Trusted p) (ints x y)) (a b : Value) :
    Returns (Trusted p) (numeric ints floats a b) := by
  unfold numeric
  split
  · exact .bind .any fun ⟨x, y⟩ _ => h x y
  · split
    · exact .ok (.float _)
    · exact .error

theorem returns_add {a b : Value} (ha : a.Trusted p) (hb : b.Trusted p) :
    Returns (Trusted p) (add a b) := by
  unfold add
  split
  · exact .ok (.ofText _)
  · split
    · rename_i hx hy
      refine .ok (Trusted.iterable_iff.2 ?_)
      intro v hv
      rcases List.mem_append.1 hv with hv | hv
      · exact ha.listItems? hx v hv
      · exact hb.listItems? hy v hv
    · exact returns_numeric (fun x y => returns_whole _) _ _

theorem returns_times {α : Type} {q : α → Prop} {xs : List α} (h : ∀ x ∈ xs, q x) (count : Value) :
    Returns (fun ys : List α => ∀ y ∈ ys, q y) (times xs count) := by
  unfold times
  split
  · refine .ok ?_
    split
    · simp
    · intro y hy
      obtain ⟨ys, hys, hy⟩ := List.mem_flatten.1 hy
      rw [List.eq_of_mem_replicate hys] at hy
      exact h y hy
  · exact .error

theorem returns_multiply {a b : Value} (ha : a.Trusted p) (hb : b.Trusted p) :
    Returns (Trusted p) (multiply a b) := by
  have htext : ∀ (s : Text) (n : Value), Returns (Trusted p) ((times s n).map .ofText) :=
    fun s n => .map .any fun t _ => .ofText t
  have hlist : ∀ (xs : List Value) (n : Value), (∀ x ∈ xs, Trusted p x) →
      Returns (Trusted p) ((times xs n).map .iterable) :=
    fun xs n h => .map (returns_times h n) fun ys hys => Trusted.iterable_iff.2 hys
  unfold multiply
  split
  · exact htext _ _
  · exact htext _ _
  · exact hlist _ _ (Trusted.list_iff.1 ha)
  · exact hlist _ _ (Trusted.iterable_iff.1 ha)
  · exact hlist _ _ (Trusted.list_iff.1 hb)
  · exact hlist _ _ (Trusted.iterable_iff.1 hb)
  · exact returns_numeric (fun x y => returns_whole _) _ _

theorem returns_divide (a b : Value) : Returns (Trusted p) (divide a b) := by
  unfold divide
  split
  · exact .ok (.float _)
  · exact .error

theorem returns_power (a b : Value) : Returns (Trusted p) (power a b) := by
  refine returns_numeric (fun x y => ?_) a b
  split
  · split
    · exact .error
    · split
      · exact returns_whole _
      · exact .error
  · exact .error

theorem returns_guarded (y : Int) (n : Int) :
    Returns (Trusted p) (if y = 0 then .error .invalidOperation else whole n) := by
  split
  · exact .error
  · exact returns_whole n

theorem returns_binary (op : BinaryOp) {a b : Value} (ha : a.Trusted p) (hb : b.Trusted p) :
    Returns (Trusted p) (binary op a b) := by
  cases op with
  | or =>
    refine .ok ?_
    split
    · exact ha
    · exact hb
  | and =>
    refine .ok ?_
    split
    · exact hb
    · exact ha
  | add => exact returns_add ha hb
  | subtract => exact returns_numeric (fun x y => returns_whole _) a b
  | concat => exact .ok (.ofText _)
  | multiply => exact returns_multiply ha hb
  | divide => exact returns_divide a b
  | floorDivide => exact returns_numeric (fun x y => returns_guarded y _) a b
  | remainder => exact returns_numeric (fun x y => returns_guarded y _) a b
  | power => exact returns_power a b

theorem returns_unary (op : UnaryOp) (a : Value) : Returns (Trusted p) (unary op a) := by
  cases op with
  | not => exact .ok (.bool _)
  | negate =>
    show Returns (Trusted p) (negate a)
    unfold negate
    split
    · exact returns_whole _
    · exact .ok (.float _)
    · exact .error

theorem mem_of_mem_sliceList {α : Type} {xs : List α} {start stop : Option Int} {step : Int} {x : α}
    (h : x ∈ sliceList xs start stop step) : x ∈ xs := by
  unfold sliceList at h
  obtain ⟨i, -, hi⟩ := List.mem_filterMap.1 h
  exact List.mem_of_getElem? hi

theorem returns_slice {v : Value} (h : v.Trusted p) (start stop step : Value) :
    Returns (Trusted p) (slice v start stop step) := by
  unfold slice
  refine .bind .any fun low _ => .bind .any fun high _ => .bind .any fun stride _ => ?_
  dsimp only
  split
  · exact .error
  · split
    · exact .ok (Trusted.list_iff.2 (by simp))
    · exact .ok (Trusted.list_iff.2 (by simp))
    · exact .ok (.ofText _)
    · exact .ok (Trusted.iterable_iff.2 fun w hw =>
        Trusted.list_iff.1 h w (mem_of_mem_sliceList hw))
    · exact .ok (Trusted.iterable_iff.2 fun w hw =>
        Trusted.iterable_iff.1 h w (mem_of_mem_sliceList hw))
    · exact .error

end Operation

namespace Value

theorem Trusted.literal (l : Literal) : Trusted p l.value := by
  cases l <;> rfl

theorem Trusted.conjunction {a b : Value} (hb : b.Trusted p) : (a.conjunction b).Trusted p := by
  unfold Value.conjunction
  split
  · exact hb
  · exact .bool false

theorem returns_member {v : Value} (h : v.Trusted p) (name : Text) :
    Returns (Trusted p) (v.member name) := by
  unfold Value.member
  split
  · rename_i hw
    exact .ok (h.member? hw)
  · split
    · exact .error
    · exact .ok .undefined

theorem returns_item {v : Value} (h : v.Trusted p) (key : Value) :
    Returns (Trusted p) (v.item key) := by
  unfold Value.item
  split
  · rename_i hw
    exact .ok (h.item? hw)
  · split
    · exact .error
    · exact .ok .undefined

end Value

/-! ## Arguments -/

/-- Arguments that are all trusted. -/
def Arguments.Trusted (p : Policy) (args : Arguments) : Prop :=
  ∀ v ∈ args.values, v.Trusted p

namespace Arguments

theorem Trusted.cons {args : Arguments} {v : Value} (hv : v.Trusted p) (h : args.Trusted p) :
    (args.cons v).Trusted p := List.forall_mem_cons.2 ⟨hv, h⟩

theorem Trusted.value? {args : Arguments} (h : args.Trusted p) {i : Nat} {v : Value}
    (hv : args.value? i = some v) : v.Trusted p := h v (List.mem_of_getElem? hv)

theorem returns_value {args : Arguments} (h : args.Trusted p) (i : Nat) :
    Returns (Value.Trusted p) (args.value i) := by
  unfold value
  split
  · rename_i hv
    exact .ok (h.value? hv)
  · exact .error

theorem returns_collect {positional named : List (ArgumentKind × Value)}
    (hp : ∀ a ∈ positional, a.2.Trusted p) (hn : ∀ a ∈ named, a.2.Trusted p) :
    Returns (Trusted p) (collect positional named) := by
  have hentries : ∀ a ∈ named, Returns (fun entries : List (Value × Value) =>
      ∀ e ∈ entries, Value.TrustedEntry p e) (namedEntries a) := by
    intro a ha
    unfold namedEntries
    split
    · refine .ok ?_
      intro e he
      rw [List.mem_singleton.1 he]
      exact ⟨.ofText _, hn _ ha⟩
    · split
      · rename_i hv
        exact .ok ((hn _ ha).pairs? hv)
      · exact .error
  have hvalues : ∀ a ∈ positional, Returns (fun values : List Value =>
      ∀ v ∈ values, v.Trusted p) (positionalValues a) := by
    intro a ha
    unfold positionalValues
    split
    · split
      · rename_i hv
        exact .ok ((hp _ ha).items? hv)
      · exact .error
    · refine .ok ?_
      simpa using hp _ ha
  unfold collect
  refine .bind (.mapM hentries) fun entries he => .bind (.mapM hvalues) fun values hv => .ok ?_
  have hall : ∀ v ∈ values.flatten, v.Trusted p := by
    intro v hmem
    obtain ⟨vs, hvs, hmem⟩ := List.mem_flatten.1 hmem
    exact hv vs hvs v hmem
  split
  · exact hall
  · intro v hmem
    rcases List.mem_append.1 hmem with hmem | hmem
    · exact hall v hmem
    · rw [List.mem_singleton.1 hmem]
      refine Value.Trusted.ofEntries ?_
      intro e hmem
      obtain ⟨es, hes, hmem⟩ := List.mem_flatten.1 hmem
      exact he es hes e hmem

end Arguments

theorem Arguments.Trusted.optional {args : Arguments} (h : args.Trusted p) {i : Nat} {v : Value}
    (hv : args.optional i = some v) : v.Trusted p := h.value? (Option.filter_eq_some_iff.1 hv).1

theorem Arguments.returns_options {args : Arguments} (h : args.Trusted p) (i : Nat)
    (names : List Text) : Returns (Value.Trusted p) (args.options i names) := by
  unfold options
  refine .bind .any fun _ _ => ?_
  split
  · exact .ok .undefined
  · rename_i v hv
    split
    · exact .ok (h.value? hv)
    · split
      · exact .error
      · split
        · exact .ok (h.value? hv)
        · exact .error

/-! ## Items -/

namespace Value

theorem Trusted.getD {v : Option Value} (h : ∀ w, v = some w → w.Trusted p) {default : Value}
    (hdefault : default.Trusted p) : (v.getD default).Trusted p := by
  cases v with
  | none => exact hdefault
  | some w => exact h w rfl

theorem returns_step {v : Value} (h : v.Trusted p) (name : Text) :
    Returns (Trusted p) (v.step name) := by
  unfold step
  split
  · split
    · exact returns_item h _
    · exact returns_member h name
  · exact returns_member h name

theorem returns_path {v : Value} (h : v.Trusted p) (names : Text) :
    Returns (Trusted p) (v.path names) := by
  have hsteps : ∀ (steps : List Text) (v : Value), v.Trusted p →
      Returns (Trusted p) (steps.foldlM step v) := by
    intro steps
    induction steps with
    | nil => exact fun v hv => .ok hv
    | cons name steps ih => exact fun v hv => .bind (returns_step hv name) ih
  exact hsteps _ v h

theorem Trusted.pathOr {v default : Value} (h : v.Trusted p) (hdefault : default.Trusted p)
    (names : Text) : (v.pathOr names default).Trusted p := by
  have hpath := returns_path h names
  unfold Value.pathOr
  split
  · rename_i w hw
    split
    · exact hdefault
    · exact hpath w hw
  · exact hdefault

end Value

namespace Items

open Value (Trusted)

variable {items : List Value}

theorem trusted_extreme (greatest : Bool) (h : ∀ v ∈ items, v.Trusted p) :
    (extreme greatest items).Trusted p := by
  -- The best item so far is one of the items.
  have hfold : ∀ (choose : Value → Value → Value), (∀ v w, choose v w = v ∨ choose v w = w) →
      ∀ (more : List Value) (best : Value), best.Trusted p → (∀ v ∈ more, v.Trusted p) →
        (more.foldl choose best).Trusted p := by
    intro choose hchoose more
    induction more with
    | nil => exact fun _ hbest _ => hbest
    | cons w more ih =>
      intro best hbest hmore
      rw [List.forall_mem_cons] at hmore
      refine ih _ ?_ hmore.2
      rcases hchoose best w with heq | heq
      · exact heq.symm ▸ hbest
      · exact heq.symm ▸ hmore.1
  cases items with
  | nil => exact .undefined
  | cons v more =>
    rw [List.forall_mem_cons] at h
    refine hfold _ (fun best w => ?_) more v h.1 h.2
    split
    · split
      · exact Or.inl rfl
      · exact Or.inr rfl
    · split
      · exact Or.inr rfl
      · exact Or.inl rfl

theorem mem_of_mem_unique {seenAs : Value → Value} {v : Value} :
    ∀ {seen items : List Value}, v ∈ unique seenAs seen items → v ∈ items := by
  intro seen items h
  induction items generalizing seen with
  | nil => exact h
  | cons w items ih =>
    rw [unique] at h
    split at h
    · exact List.mem_cons_of_mem w (ih h)
    · rcases List.mem_cons.1 h with rfl | h
      · exact List.mem_cons_self
      · exact List.mem_cons_of_mem w (ih h)

theorem trusted_rows {filler : Option Value} (hfiller : ∀ v ∈ filler, v.Trusted p) (count n : Nat) :
    ∀ {items : List Value}, (∀ v ∈ items, v.Trusted p) →
      ∀ row ∈ rows count filler n items, row.Trusted p := by
  induction n with
  | zero => simp [rows]
  | succ n ih =>
    intro items h
    rw [rows]
    split
    · simp
    · refine List.forall_mem_cons.2 ⟨Trusted.list_iff.2 fun v hv => ?_,
        ih fun v hv => h v (List.mem_of_mem_drop hv)⟩
      rcases List.mem_append.1 hv with hv | hv
      · exact h v (List.mem_of_mem_take hv)
      · obtain ⟨w, hw, hv⟩ := List.mem_flatMap.1 hv
        rw [List.eq_of_mem_replicate hv]
        exact hfiller w (Option.mem_toList.1 hw)

theorem trusted_columns {filler : Option Value} (hfiller : ∀ v ∈ filler, v.Trusted p)
    (count : Nat) (h : ∀ v ∈ items, v.Trusted p) :
    ∀ column ∈ columns count filler items, column.Trusted p := by
  intro column hcolumn
  obtain ⟨i, -, rfl⟩ := List.mem_map.1 hcolumn
  refine Trusted.list_iff.2 fun v hv => ?_
  rcases List.mem_append.1 hv with hv | hv
  · exact h v (List.mem_of_mem_drop (List.mem_of_mem_take hv))
  · split at hv
    · cases hv
    · exact hfiller v (Option.mem_toList.1 hv)

theorem trusted_group {common : Value} (hcommon : common.Trusted p)
    (h : ∀ v ∈ items, v.Trusted p) : (group common items).Trusted p := by
  refine Trusted.record_iff.2 ?_
  simpa [Value.TrustedEntry, hcommon] using h

theorem trusted_groups {cased : Bool} {key : Value → Value}
    (hkey : ∀ v, v.Trusted p → (key v).Trusted p) {common : Value} {held items : List Value}
    (hcommon : common.Trusted p) (hheld : ∀ v ∈ held, v.Trusted p)
    (h : ∀ v ∈ items, v.Trusted p) :
    ∀ g ∈ groups cased key common held items, g.Trusted p := by
  have hgroup : ∀ {common : Value} {held : List Value}, common.Trusted p →
      (∀ v ∈ held, v.Trusted p) → (group common held.reverse).Trusted p :=
    fun hcommon hheld => trusted_group hcommon fun v hv => hheld v (List.mem_reverse.1 hv)
  induction items generalizing common held with
  | nil => exact List.forall_mem_singleton.2 (hgroup hcommon hheld)
  | cons v items ih =>
    rw [List.forall_mem_cons] at h
    rw [groups]
    split
    · exact ih (hkey v h.1) (List.forall_mem_cons.2 ⟨h.1, hheld⟩) h.2
    · exact List.forall_mem_cons.2 ⟨hgroup hcommon hheld,
        ih (hkey v h.1) (List.forall_mem_singleton.2 h.1) h.2⟩

theorem trusted_groupBy (cased : Bool) {key : Value → Value}
    (hkey : ∀ v, v.Trusted p → (key v).Trusted p) (h : ∀ v ∈ items, v.Trusted p) :
    ∀ g ∈ groupBy cased key items, g.Trusted p := by
  have hsorted : ∀ v ∈ sortBy cased key items, v.Trusted p :=
    fun v hv => h v (List.mem_mergeSort.1 hv)
  unfold groupBy
  split
  · simp
  · rename_i v more heq
    rw [heq, List.forall_mem_cons] at hsorted
    exact trusted_groups hkey (hkey v hsorted.1) (List.forall_mem_singleton.2 hsorted.1) hsorted.2

theorem returns_sum (h : ∀ v ∈ items, v.Trusted p) : Returns (Trusted p) (sum items) := by
  have hfold : ∀ (items : List Value) (total : Value), total.Trusted p →
      (∀ v ∈ items, v.Trusted p) → Returns (Trusted p) (items.foldlM (fun total v =>
        if v.isUndefined then .ok total else Operation.add total v) total) := by
    intro items
    induction items with
    | nil => exact fun total htotal _ => .ok htotal
    | cons v items ih =>
      intro total htotal h
      rw [List.forall_mem_cons] at h
      rw [List.foldlM_cons]
      refine .bind ?_ fun w hw => ih w hw h.2
      split
      · exact .ok htotal
      · exact Operation.returns_add htotal h.1
  exact hfold items (.int 0) (.int 0) h

theorem trusted_zip (n : Nat) : ∀ {lists : List (List Value)},
    (∀ items ∈ lists, ∀ v ∈ items, v.Trusted p) → ∀ row ∈ zip lists n, row.Trusted p := by
  induction n with
  | zero => simp [zip]
  | succ n ih =>
    intro lists h
    rw [zip]
    split
    · simp
    · refine List.forall_mem_cons.2 ⟨Trusted.list_iff.2 fun v hv => ?_, ih fun items hitems => ?_⟩
      · obtain ⟨items, hitems, hv⟩ := List.mem_filterMap.1 hv
        exact h items hitems v (List.mem_of_head? hv)
      · obtain ⟨items, hmem, rfl⟩ := List.mem_map.1 hitems
        exact fun v hv => h items hmem v (List.mem_of_mem_tail hv)

end Items

/-! ## Filters and tests -/

theorem Test.returns_apply (hasFilter : Text → Bool) (t : Test) (args : Arguments) :
    Returns (Value.Trusted p) (t.apply hasFilter args) :=
  .bind .any fun _ _ => .bind .any fun _ _ => .bind .any fun _ _ => .ok (.bool _)

namespace Filter

open Value (Trusted)

variable {args : Arguments} {v : Value}

theorem returns_onText (f : Text → Text) : Returns (Trusted p) (onText f args) :=
  .bind .any fun _ _ => .bind .any fun _ _ => .ok (.ofText _)

theorem trusted_texts (texts : List Text) : (Value.iterable (texts.map .ofText)).Trusted p := by
  simp [Trusted.iterable_iff]

theorem returns_makeInt : Returns (Trusted p) (makeInt v) := by
  unfold makeInt
  repeat' split
  all_goals first | exact .ok (Trusted.int _) | exact .error

theorem returns_makeFloat : Returns (Trusted p) (makeFloat v) := by
  unfold makeFloat
  repeat' split
  all_goals first | exact .ok (Trusted.float _) | exact .error

theorem returns_makeRound (digits : Int) : Returns (Trusted p) (makeRound v digits) := by
  unfold makeRound
  split
  · exact .ok (.int _)
  · exact .ok (.float _)
  · exact .error

theorem returns_makeAbs : Returns (Trusted p) (makeAbs v) := by
  unfold makeAbs
  split
  · exact .ok (.int _)
  · exact .ok (.float _)
  · exact .error

theorem returns_itemsOf (h : v.Trusted p) :
    Returns (fun items : List Value => ∀ w ∈ items, w.Trusted p) (itemsOf v) := by
  unfold itemsOf
  split
  · rename_i hitems
    exact .ok (h.items? hitems)
  · exact .error

theorem returns_entriesOf (h : v.Trusted p) :
    Returns (fun entries : List (Value × Value) => ∀ e ∈ entries, Value.TrustedEntry p e)
      (entriesOf v) := by
  unfold entriesOf
  split
  · rename_i hentries
    exact .ok (h.entries? hentries)
  · exact .error

theorem returns_firstOf (h : v.Trusted p) : Returns (Trusted p) (firstOf v) := by
  unfold firstOf
  split
  · rename_i items hitems
    obtain ⟨-, hitems⟩ := Option.ite_none_left_eq_some.1 hitems
    exact .ok (Trusted.getD (fun w hw => h.items? hitems w (List.mem_of_head? hw)) .undefined)
  · exact .error

theorem returns_lastOf (h : v.Trusted p) : Returns (Trusted p) (lastOf v) := by
  unfold lastOf
  split
  · refine .ok (Trusted.getD (fun w hw => ?_) .undefined)
    obtain ⟨c, -, rfl⟩ := Option.map_eq_some_iff.1 hw
    exact .ofText [c]
  · rename_i items _ hitems
    refine .ok (Trusted.getD (fun w hw => ?_) .undefined)
    exact h.listItems? hitems w (List.mem_of_getLast? hw)
  · exact .error

theorem returns_reversed (h : v.Trusted p) : Returns (Trusted p) (reversed v) := by
  unfold reversed
  split
  · exact .ok .undefined
  · exact .ok .none
  · exact .ok (.ofText _)
  · split
    · rename_i hparts
      exact .ok (Trusted.iterable_iff.2 fun w hw => h.parts? hparts w (List.mem_reverse.1 hw))
    · exact .error

theorem trusted_pairLists {entries : List (Value × Value)}
    (h : ∀ e ∈ entries, Value.TrustedEntry p e) : (Value.list (pairLists entries)).Trusted p := by
  refine Trusted.list_iff.2 fun w hw => ?_
  obtain ⟨e, he, rfl⟩ := List.mem_map.1 hw
  simpa [Value.TrustedEntry] using h e he

theorem returns_applyDictSort (h : args.Trusted p) : Returns (Trusted p) (applyDictSort args) := by
  refine .bind (args.returns_value h 0) fun v hv => .bind (returns_entriesOf hv) fun entries he =>
    .bind .any fun options _ => .bind .any fun _ _ => .bind .any fun cased _ =>
      .bind .any fun backward _ => .ok (trusted_pairLists fun e hmem => he e ?_)
  split at hmem
  · exact List.mem_mergeSort.1 (List.mem_reverse.1 hmem)
  · exact List.mem_mergeSort.1 hmem

theorem returns_applySort (h : args.Trusted p) : Returns (Trusted p) (applySort args) := by
  refine .bind (args.returns_value h 0) fun v hv => .bind (returns_itemsOf hv) fun items hi =>
    .bind .any fun options _ => .bind .any fun cased _ => .bind .any fun names _ =>
      .bind .any fun backward _ => .ok (Trusted.list_iff.2 fun w hw => hi w ?_)
  split at hw
  · exact List.mem_mergeSort.1 (List.mem_reverse.1 hw)
  · exact List.mem_mergeSort.1 hw

theorem returns_applyUnique (h : args.Trusted p) : Returns (Trusted p) (applyUnique args) := by
  refine .bind (args.returns_value h 0) fun v hv => .bind (returns_itemsOf hv) fun items hi =>
    .bind .any fun options _ => .bind .any fun cased _ => .bind .any fun names _ => .ok ?_
  exact Trusted.list_iff.2 fun w hw => hi w (Items.mem_of_mem_unique hw)

theorem returns_applyGroupBy (h : args.Trusted p) : Returns (Trusted p) (applyGroupBy args) := by
  refine .bind (args.returns_value h 0) fun v hv => .bind (returns_itemsOf hv) fun items hi =>
    .bind (args.returns_options h _ _) fun options ho => .bind .any fun names _ =>
      .bind .any fun cased _ => ?_
  split
  · refine .ok (Trusted.list_iff.2 (Items.trusted_groupBy cased (fun w hw => ?_) hi))
    exact hw.pathOr (Trusted.getD (fun d hd => ho.member? hd) .undefined) _
  · exact .error

theorem returns_applyRows {layout : Nat → Option Value → List Value → List Value}
    (hlayout : ∀ count filler items, (∀ v ∈ filler, v.Trusted p) → (∀ v ∈ items, v.Trusted p) →
      ∀ row ∈ layout count filler items, row.Trusted p) (h : args.Trusted p) :
    Returns (Trusted p) (applyRows layout args) := by
  refine .bind (args.returns_value h 0) fun v hv => .bind (returns_itemsOf hv) fun items hi =>
    .bind .any fun count _ => .bind .any fun _ _ => ?_
  split
  · exact .error
  · exact .ok (Trusted.list_iff.2 (hlayout count _ items (fun w hw => h.optional hw) hi))

theorem exists_of_mapM {α β : Type} {f : α → Option β} {as : List α} :
    ∀ {bs : List β}, as.mapM f = some bs → ∀ b ∈ bs, ∃ a ∈ as, f a = some b := by
  induction as with
  | nil =>
    intro bs h
    cases h
    simp
  | cons a as ih =>
    intro bs h
    rw [List.mapM_cons] at h
    obtain ⟨b, hb, h⟩ := Option.bind_eq_some_iff.1 h
    obtain ⟨bs', hbs', h⟩ := Option.bind_eq_some_iff.1 h
    cases h
    refine List.forall_mem_cons.2 ⟨⟨a, List.mem_cons_self, hb⟩, fun c hc => ?_⟩
    obtain ⟨a', ha', hsome⟩ := ih hbs' c hc
    exact ⟨a', List.mem_cons_of_mem a ha', hsome⟩

theorem returns_chained {values : List Value} (h : ∀ v ∈ values, v.Trusted p) :
    Returns (Trusted p) (chained values) := by
  unfold chained
  split
  · rename_i lists hlists
    refine .ok (.ofEntries fun e he => ?_)
    obtain ⟨entries, hentries, he⟩ := List.mem_flatten.1 he
    obtain ⟨v, hv, hsome⟩ := exists_of_mapM hlists entries hentries
    exact (h v hv).entries? hsome e he
  · refine .bind (.mapM fun v hv => returns_itemsOf (h v hv)) fun lists hlists => .ok ?_
    refine Trusted.iterable_iff.2 fun w hw => ?_
    obtain ⟨items, hitems, hw⟩ := List.mem_flatten.1 hw
    exact hlists items hitems w hw

theorem returns_filterM {q : Value → Prop} {test : Value → Except Cause Bool} {items : List Value}
    (h : ∀ v ∈ items, q v) : Returns (fun kept : List Value => ∀ v ∈ kept, q v)
      (items.filterM test) := by
  have haux : ∀ (items kept : List Value), (∀ v ∈ items, q v) → (∀ v ∈ kept, q v) →
      Returns (fun kept : List Value => ∀ v ∈ kept, q v) (items.filterAuxM test kept) := by
    intro items
    induction items with
    | nil => exact fun kept _ hkept => .ok hkept
    | cons v items ih =>
      intro kept h hkept
      rw [List.forall_mem_cons] at h
      refine .bind .any fun passes _ => ih _ h.2 ?_
      cases passes with
      | true => exact List.forall_mem_cons.2 ⟨h.1, hkept⟩
      | false => exact hkept
  exact .bind (haux items [] h (by simp)) fun kept hkept =>
    .ok fun v hv => hkept v (List.mem_reverse.1 hv)

theorem returns_applySelect (keep ofPart : Bool) (h : args.Trusted p) :
    Returns (Trusted p) (applySelect keep ofPart args) :=
  .bind (args.returns_value h 0) fun _ hv => .bind (returns_itemsOf hv) fun _ hi =>
    .bind .any fun _ _ => .bind .any fun _ _ => .bind .any fun _ _ =>
      .bind (returns_filterM hi) fun _ hkept => .ok (Trusted.list_iff.2 hkept)

theorem returns_attributeOf {default : Value} (hdefault : default.Trusted p) (names : Value)
    (h : v.Trusted p) : Returns (Trusted p) (attributeOf names default v) := by
  have hpart : Returns (Trusted p) (partAt names v) := by
    unfold partAt
    split
    · exact Value.returns_path h _
    · exact Value.returns_item h _
  unfold attributeOf
  split
  · rename_i w hw
    refine .ok ?_
    split
    · exact hdefault
    · exact hpart w hw
  · split
    · exact .error
    · exact .ok hdefault

theorem returns_applyMap {inner : Filter → Arguments → Except Cause Value}
    (hinner : ∀ f args, args.Trusted p → Returns (Trusted p) (inner f args)) (h : args.Trusted p) :
    Returns (Trusted p) (applyMap inner args) := by
  have hpositional : ∀ v ∈ (if args.named then args.values.dropLast else args.values),
      v.Trusted p := by
    intro v hv
    split at hv
    · exact h v (List.dropLast_subset _ hv)
    · exact h v hv
  have hnamed : Trusted p (if args.named then args.values.getLast?.getD .undefined
      else .undefined) := by
    split
    · exact Trusted.getD (fun w hw => h w (List.mem_of_getLast? hw)) .undefined
    · exact .undefined
  refine .bind (args.returns_value h 0) fun v hv => .bind (returns_itemsOf hv) fun items hi => ?_
  generalize (if args.named then args.values.dropLast else args.values) = positional at hpositional
  generalize (if args.named then args.values.getLast?.getD .undefined else .undefined) = named
    at hnamed
  dsimp only
  split
  · split
    · exact .error
    · refine .bind (.mapM fun w hw => returns_attributeOf ?_ _ (hi w hw)) fun ws hws =>
        .ok (Trusted.list_iff.2 hws)
      exact Trusted.getD (fun d hd => hnamed.member? hd) .undefined
  · split
    · split
      · refine .bind (.mapM fun w hw => hinner _ _ ?_) fun ws hws => .ok (Trusted.list_iff.2 hws)
        exact List.forall_mem_cons.2 ⟨hi w hw, fun u hu => hpositional u (List.mem_of_mem_drop hu)⟩
      · exact .error
    · exact .error

/-- A filter makes no slot source if those it applies to items do not. -/
theorem returns_applyWith {inner : Filter → Arguments → Except Cause Value}
    (hinner : ∀ f args, args.Trusted p → Returns (Trusted p) (inner f args)) (f : Filter)
    (h : args.Trusted p) : Returns (Trusted p) (applyWith inner f args) := by
  have hvalue : ∀ {f : Value → Except Cause Value} {n : Nat},
      (∀ v, v.Trusted p → Returns (Trusted p) (f v)) →
        Returns (Trusted p) (do
          let v ← args.value 0
          args.atMost n
          f v) := fun hf =>
    .bind (args.returns_value h 0) fun v hv => .bind .any fun _ _ => hf v hv
  have hitems : ∀ {f : List Value → Except Cause Value} {n : Nat},
      (∀ items : List Value, (∀ v ∈ items, v.Trusted p) → Returns (Trusted p) (f items)) →
        Returns (Trusted p) (do
          let items ← itemsOf (← args.value 0)
          args.atMost n
          f items) := fun hf =>
    .bind (args.returns_value h 0) fun v hv => .bind (returns_itemsOf hv) fun items hi =>
      .bind .any fun _ _ => hf items hi
  cases f with
  | safe => exact .bind .any fun s _ => .bind .any fun _ _ => .ok (.ofMarkup s)
  | escape =>
    refine hvalue fun v hv => .ok ?_
    split
    · exact hv
    · exact .ofMarkup _
  | lower => exact returns_onText _
  | upper => exact returns_onText _
  | title => exact returns_onText _
  | capitalize => exact returns_onText _
  | replace =>
    exact .bind .any fun _ _ => .bind .any fun _ _ => .bind .any fun _ _ => .bind .any fun _ _ =>
      .ok (.ofText _)
  | trim => exact .bind .any fun _ _ => .bind .any fun _ _ => .bind .any fun _ _ => .ok (.ofText _)
  | join =>
    refine .bind .any fun v _ => .bind .any fun separator _ => .bind .any fun _ _ => ?_
    split
    · exact .ok (.ofText [])
    · split
      · exact .ok (.ofText _)
      · exact .error
  | split =>
    exact .bind .any fun _ _ => .bind .any fun _ _ => .bind .any fun _ _ => .bind .any fun _ _ =>
      .ok (trusted_texts _)
  | lines => exact .bind .any fun _ _ => .bind .any fun _ _ => .ok (trusted_texts _)
  | indent =>
    exact .bind .any fun _ _ => .bind .any fun _ _ => .bind .any fun _ _ => .bind .any fun _ _ =>
      .bind .any fun _ _ => .ok (.ofText _)
  | length =>
    refine hvalue fun v _ => ?_
    split
    · exact .ok (.int _)
    · exact .error
  | default =>
    refine .bind (args.returns_value h 0) fun v hv => .bind .any fun lax _ =>
      .bind .any fun _ _ => .ok ?_
    split
    · exact Trusted.getD (fun w hw => h.value? hw) (.ofText [])
    · exact hv
  | string =>
    refine hvalue fun v hv => .ok ?_
    split
    · exact hv
    · exact .ofText _
  | bool => exact hvalue fun v _ => .ok (.bool _)
  | int => exact hvalue fun v _ => returns_makeInt
  | float => exact hvalue fun v _ => returns_makeFloat
  | round =>
    exact .bind .any fun _ _ => .bind .any fun _ _ => .bind .any fun _ _ => returns_makeRound _
  | abs => exact hvalue fun v _ => returns_makeAbs
  | pprint => exact hvalue fun v _ => .ok (.ofText _)
  | dictSort => exact returns_applyDictSort h
  | pairs =>
    exact .bind (args.returns_value h 0) fun v hv => .bind (returns_entriesOf hv) fun es he =>
      .bind .any fun _ _ => .ok (trusted_pairLists he)
  | reverse => exact hvalue fun v hv => returns_reversed hv
  | attr =>
    exact .bind (args.returns_value h 0) fun v hv => .bind .any fun key _ => .bind .any fun _ _ =>
      Value.returns_item hv key
  | first => exact hvalue fun v hv => returns_firstOf hv
  | last => exact hvalue fun v hv => returns_lastOf hv
  | min => exact hitems fun items hi => .ok (Items.trusted_extreme false hi)
  | max => exact hitems fun items hi => .ok (Items.trusted_extreme true hi)
  | sort => exact returns_applySort h
  | list => exact hitems fun items hi => .ok (Trusted.list_iff.2 hi)
  | batch =>
    have hrows : ∀ count filler (items : List Value), (∀ v ∈ filler, Trusted p v) →
        (∀ v ∈ items, v.Trusted p) → ∀ row ∈ Items.rows count filler items.length items,
          row.Trusted p :=
      fun count _ items hfiller hi => Items.trusted_rows hfiller count items.length hi
    exact returns_applyRows hrows h
  | slice =>
    exact returns_applyRows (fun count filler items hfiller hi =>
      Items.trusted_columns hfiller count hi) h
  | sum => exact hitems fun items hi => Items.returns_sum hi
  | unique => exact returns_applyUnique h
  | groupBy => exact returns_applyGroupBy h
  | chain => exact .bind .any fun _ _ => returns_chained h
  | zip =>
    exact .bind .any fun _ _ => .bind (.mapM fun v hv => returns_itemsOf (h v hv))
      fun lists hlists => .ok (Trusted.list_iff.2 (Items.trusted_zip _ hlists))
  | select keep ofPart => exact returns_applySelect keep ofPart h
  | map => exact returns_applyMap hinner h

/-- **A filter makes no slot source.** -/
theorem returns_apply (f : Filter) (h : args.Trusted p) :
    Returns (Trusted p) (f.apply args) := by
  have hlevels : ∀ levels f args, Arguments.Trusted p args →
      Returns (Trusted p) (applyAt levels f args) := by
    intro levels
    induction levels with
    | zero => exact fun f args h => returns_applyWith (fun _ _ _ => .error) f h
    | succ levels ih => exact fun f args h => returns_applyWith ih f h
  exact hlevels _ f args h

end Filter

/-! ## Functions -/

namespace Function

theorem returns_pairs (values : List Value) (h : ∀ v ∈ values, v.Trusted p) :
    Returns (fun entries : List (Text × Value) => ∀ e ∈ entries, e.2.Trusted p) (pairs values) := by
  fun_induction pairs values with
  | case1 => exact .ok (by simp)
  | case2 => exact .error
  | case3 k v more ih =>
    rw [List.forall_mem_cons, List.forall_mem_cons] at h
    refine .map (ih h.2.2) fun entries he => ?_
    exact List.forall_mem_cons.2 ⟨h.2.1, he⟩

theorem returns_mergeEntries {v : Value} (h : v.Trusted p) :
    Returns (fun entries : List (Text × Value) => ∀ e ∈ entries, e.2.Trusted p)
      (mergeEntries v) := by
  unfold mergeEntries
  split
  · rename_i entries hentries
    refine .ok ?_
    intro e he
    obtain ⟨⟨k, w⟩, hmem, rfl⟩ := List.mem_map.1 he
    exact (h.entries? hentries _ hmem).2
  · split
    · exact .ok (by simp)
    · exact .error

theorem returns_mergeAll (values : List Value) (h : ∀ v ∈ values, v.Trusted p) :
    Returns (fun entries : List (Text × Value) => ∀ e ∈ entries, e.2.Trusted p)
      (mergeAll values) := by
  induction values with
  | nil => exact .ok (by simp)
  | cons v values ih =>
    rw [List.forall_mem_cons] at h
    refine .bind (returns_mergeEntries h.1) fun entries he => .bind (ih h.2) fun rest hr => .ok ?_
    intro e hmem
    rcases List.mem_append.1 hmem with hmem | hmem
    · exact he e hmem
    · exact hr e hmem

theorem returns_makeDict {values : List Value} (h : ∀ v ∈ values, v.Trusted p) :
    Returns (Value.Trusted p) (makeDict values) :=
  .map (returns_pairs values h) fun _ he => .ofNamed he

theorem returns_makeMerge {values : List Value} (h : ∀ v ∈ values, v.Trusted p) :
    Returns (Value.Trusted p) (makeMerge values) :=
  .map (returns_mergeAll values h) fun _ he => .ofNamed he

theorem returns_invokeArguments {args : Arguments} (h : args.Trusted p) :
    Returns (fun call : Text × Value => call.2.Trusted p) (invokeArguments args) := by
  refine .bind .any fun name _ => .bind .any fun _ _ => .ok ?_
  show ((args.optional 1).getD .undefined).Trusted p
  cases hprops : args.optional 1 with
  | none => exact .undefined
  | some props => exact h.optional hprops

theorem returns_limited (low high step : Int) :
    Returns (Value.Trusted p) (limited (numbers low high step)) := by
  unfold limited
  split
  · exact .error
  · refine .ok (Value.Trusted.iterable_iff.2 ?_)
    intro v hv
    obtain ⟨i, -, rfl⟩ := List.mem_map.1 hv
    exact .int _

theorem returns_makeRange (args : Arguments) : Returns (Value.Trusted p) (makeRange args) := by
  unfold makeRange
  refine .bind .any fun _ _ => .bind .any fun bound _ => .bind .any fun high _ =>
    .bind .any fun step _ => .bind .any fun _ _ => ?_
  split
  · exact .error
  · split
    · exact returns_limited _ _ _
    · exact returns_limited _ _ _

theorem returns_spaceEntries {args : Arguments} (h : args.Trusted p) :
    Returns (fun entries : List (Value × Value) => ∀ e ∈ entries, Value.TrustedEntry p e)
      (spaceEntries args) := by
  unfold spaceEntries
  refine .bind .any fun _ _ => ?_
  split
  · exact .ok (by simp)
  · rename_i v hv
    split
    · rename_i entries hentries
      exact .ok fun e he => (h.optional hv).entries? hentries e (List.mem_filter.1 he).1
    · exact .error

end Function

/-! ## Data -/

namespace Value

mutual

/-- **Data holds no slot sources.** -/
theorem Trusted.ofJson : ∀ j : Json, (Value.ofJson j).Trusted p
  | .null => .none
  | .bool b => .bool b
  | .int n => .int n
  | .float x => .float x
  | .string s => .ofText s
  | .array items => Trusted.list_iff.2 (Trusted.ofJsonItems items)
  | .object fields => .ofEntries (Trusted.ofJsonFields fields)

theorem Trusted.ofJsonItems : ∀ items : List Json, ∀ v ∈ Value.ofJsonItems items, v.Trusted p
  | [] => by simp [Value.ofJsonItems]
  | j :: items => List.forall_mem_cons.2 ⟨Trusted.ofJson j, Trusted.ofJsonItems items⟩

theorem Trusted.ofJsonFields :
    ∀ fields : List (Text × Json), ∀ e ∈ Value.ofJsonFields fields, TrustedEntry p e
  | [] => by simp [Value.ofJsonFields]
  | (name, j) :: fields =>
    List.forall_mem_cons.2 ⟨⟨.ofText name, Trusted.ofJson j⟩, Trusted.ofJsonFields fields⟩

end

end Value

end Componentry.Template
