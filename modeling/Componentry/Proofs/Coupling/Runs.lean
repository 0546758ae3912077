import Componentry.Proofs.Coupling.Code
import Componentry.Proofs.Provenance.Operations
import Componentry.Proofs.Template.Running

/-! # Runs that go alike

Two runs are **coupled** by a relation if they go alike from memories that are alike but for
the events: they report related events, leave memories behind that are alike, and either
fail alike or give related results (`Couple`).  Runs with variables are coupled between equal
scopes, and leave equal scopes behind (`CoupleIn`).

How the events of the two runs are related, and what is asked of values and code, is a
parameter here, a `Setting`.  Values are asked for slot sources, functions and macros
(`Setting.policy`), code for its expressions and the names that it sets.
-/
namespace Componentry.Template

/-- How the events of two runs are related. -/
structure EventRelation where
  /-- What holds of the events before. -/
  Before : List LogEvent → List LogEvent → Prop
  /-- What holds of the events that the two runs report. -/
  Written : List LogEvent → List LogEvent → Prop
  nil : Written [] []
  append : ∀ {v v' w w'}, Written v v' → Written w w' → Written (v ++ w) (v' ++ w')
  before : ∀ {l l' w w'}, Before l l' → Written w w' → Before (l ++ w) (l' ++ w')
  /-- Both runs may report that an invocation has failed. -/
  failed : ∀ name failure,
    Written [Function.failedEvent name failure] [Function.failedEvent name failure]

/-- The relation of runs that report the same events. -/
def EventRelation.same : EventRelation where
  Before _ _ := True
  Written w w' := w = w'
  nil := rfl
  append h h' := by rw [h, h']
  before _ _ := trivial
  failed _ _ := rfl

/-- What two runs are compared under. -/
structure Setting where
  events : EventRelation
  /-- Which slot sources values may hold. -/
  sources : Text → Bool
  /-- Which functions values may hold. -/
  functions : Function → Bool
  /-- Which functions may be called by name. -/
  callable : Function → Bool
  /-- What is asked of code. -/
  tests : Tests
  /-- Which names may be used as variables. -/
  isVar : Text → Bool
  /-- Which names may be called. -/
  isCallee : Text → Bool
  /-- The expressions that are compared in a way of their own. -/
  special : Expr → Bool
  inMacro : ∀ {e}, tests.inMacro e = true → tests.expr e = true
  parts : ∀ {e}, tests.expr e = true →
    special e = true ∨ e.parts tests.expr isVar isCallee = true
  special_var : ∀ {x line}, special (.var x line) = false
  functions_callable : ∀ {f}, functions f = true → callable f = true
  callable_deferred : callable .deferred = true → ∀ source, sources source = true
  functions_of_isVar : ∀ {x f}, isVar x = true → Function.named? x = some f → functions f = true
  callable_of_isCallee : ∀ {x f}, isCallee x = true → Function.named? x = some f →
    callable f = true
  /-- A name that must not be set is that of a function. -/
  named_of_name : ∀ {x}, tests.name x = false → (Function.named? x).isSome = true

namespace Setting

/-- What values may hold. -/
def policy (S : Setting) : Policy := ⟨S.sources, S.functions, fun code => code.passes S.tests⟩

theorem isVar_of_expr {S : Setting} {x : Text} {line : Nat}
    (h : S.tests.expr (.var x line) = true) : S.isVar x = true := by
  rcases S.parts h with hspecial | hvar
  · rw [S.special_var] at hspecial
    cases hspecial
  · exact hvar

theorem imply_within (S : Setting) : S.tests.within.Imply S.tests :=
  ⟨fun _ => S.inMacro, fun _ h => h, fun _ h => h⟩

theorem name_of_named {S : Setting} {x : Text} (h : Function.named? x = none) :
    S.tests.name x = true := by
  cases hname : S.tests.name x with
  | true => rfl
  | false => simpa [h] using S.named_of_name hname

end Setting

/-! ## Related results -/

/-- Results that are equal, and have a property. -/
def Same {α : Type} (q : α → Prop) (a b : α) : Prop := a = b ∧ q a

theorem Same.of {α : Type} {q : α → Prop} {a : α} (h : q a) : Same q a a := ⟨rfl, h⟩

/-- Two computations give related results, or fail for the same cause. -/
inductive Matched {ε α β : Type} (R : α → β → Prop) : Except ε α → Except ε β → Prop where
  | ok {a : α} {b : β} (h : R a b) : Matched R (.ok a) (.ok b)
  | error {e : ε} : Matched R (.error e) (.error e)

namespace Matched

variable {ε α β α' β' : Type} {R : α → β → Prop} {R' : α' → β' → Prop}

theorem same {q : α → Prop} {x : Except ε α} (h : Returns q x) : Matched (Same q) x x := by
  cases x with
  | ok a => exact ok (.of (h a rfl))
  | error e => exact error

theorem bind {x : Except ε α} {y : Except ε β} {f : α → Except ε α'} {g : β → Except ε β'}
    (h : Matched R x y) (hf : ∀ a b, R a b → Matched R' (f a) (g b)) :
    Matched R' (x >>= f) (y >>= g) := by
  cases h with
  | ok hab => exact hf _ _ hab
  | error => exact error

theorem map {x : Except ε α} {y : Except ε β} {f : α → α'} {g : β → β'} (h : Matched R x y)
    (hf : ∀ a b, R a b → R' (f a) (g b)) : Matched R' (x.map f) (y.map g) := by
  cases h with
  | ok hab => exact ok (hf _ _ hab)
  | error => exact error

theorem weaken {S : α → β → Prop} {x : Except ε α} {y : Except ε β} (h : Matched R x y)
    (hS : ∀ a b, R a b → S a b) : Matched S x y := by
  cases h with
  | ok hab => exact ok (hS _ _ hab)
  | error => exact error

theorem eq_of_same {q : α → Prop} {x y : Except ε α} (h : Matched (Same q) x y) : x = y := by
  cases h with
  | ok hab => rw [hab.1]
  | error => rfl

end Matched

/-! ## Memories -/

namespace Memory

/-- The memories of two runs are alike but for the events, and cells hold trusted values. -/
structure Alike (S : Setting) (m n : Memory) : Prop where
  spaces : m.spaces = n.spaces
  closures : m.closures = n.closures
  trusted : ∀ entries ∈ m.spaces, ∀ e ∈ entries, Value.TrustedEntry S.policy e
  events : S.events.Before m.events n.events

/-- Two runs lead from memories to memories that are alike, by related events. -/
structure Follow (S : Setting) (m n m' n' : Memory) : Prop where
  spaces : m'.spaces = n'.spaces
  closures : m'.closures = n'.closures
  trusted : ∀ entries ∈ m'.spaces, ∀ e ∈ entries, Value.TrustedEntry S.policy e
  written : ∃ w w', S.events.Written w w' ∧ m'.events = m.events ++ w ∧ n'.events = n.events ++ w'

variable {S : Setting} {m n m' n' m'' n'' : Memory}

theorem Alike.refl (h : m.Alike S n) : Follow S m n m n :=
  ⟨h.spaces, h.closures, h.trusted, [], [], S.events.nil, by simp, by simp⟩

theorem Follow.alike (h : Follow S m n m' n') (hmn : m.Alike S n) : m'.Alike S n' := by
  obtain ⟨w, w', hw, hm, hn⟩ := h.written
  refine ⟨h.spaces, h.closures, h.trusted, ?_⟩
  rw [hm, hn]
  exact S.events.before hmn.events hw

theorem Follow.trans (h : Follow S m n m' n') (h' : Follow S m' n' m'' n'') :
    Follow S m n m'' n'' := by
  obtain ⟨v, v', hv, hm, hn⟩ := h.written
  obtain ⟨w, w', hw, hm', hn'⟩ := h'.written
  refine ⟨h'.spaces, h'.closures, h'.trusted, v ++ w, v' ++ w', S.events.append hv hw, ?_, ?_⟩
  · rw [hm', hm, List.append_assoc]
  · rw [hn', hn, List.append_assoc]

end Memory

/-! ## Runs -/

/-- From memories that are alike, both runs lead to such memories, and have related results
or the same failure. -/
def Couple {α β : Type} (S : Setting) (R : α → β → Prop) (x : Run α) (y : Run β) : Prop :=
  ∀ m n, m.Alike S n → Matched R (x.run.run m).1 (y.run.run n).1 ∧
    Memory.Follow S m n (x.run.run m).2 (y.run.run n).2

namespace Couple

variable {S : Setting} {α β α' β' : Type} {R : α → β → Prop} {R' : α' → β' → Prop} {q : α → Prop}

theorem pure {a : α} {b : β} (h : R a b) : Couple S R (Pure.pure a) (Pure.pure b) :=
  fun _ _ hmn => ⟨.ok h, hmn.refl⟩

theorem throw {failure : Failure} :
    Couple S R (MonadExcept.throw failure) (MonadExcept.throw failure) :=
  fun _ _ hmn => ⟨.error, hmn.refl⟩

theorem fail {cause : Cause} : Couple S R (Run.fail cause) (Run.fail cause) := throw

theorem ofExcept {x : Except Cause α} {y : Except Cause β} (h : Matched R x y) :
    Couple S R (Run.ofExcept x) (Run.ofExcept y) := by
  cases h with
  | ok hab => exact pure hab
  | error => exact fail

theorem returned {x : Except Cause α} (h : Returns q x) :
    Couple S (Same q) (Run.ofExcept x) (Run.ofExcept x) := ofExcept (.same h)

theorem bind {x : Run α} {y : Run β} {f : α → Run α'} {g : β → Run β'} (h : Couple S R x y)
    (hf : ∀ a b, R a b → Couple S R' (f a) (g b)) : Couple S R' (x >>= f) (y >>= g) := by
  intro m n hmn
  obtain ⟨hresult, hfollow⟩ := h m n hmn
  rw [Run.run_bind, Run.run_bind]
  rcases hx : x.run.run m with ⟨r, m'⟩
  rcases hy : y.run.run n with ⟨r', n'⟩
  rw [hx, hy] at hresult hfollow
  cases hresult with
  | ok hab =>
    obtain ⟨hresult', hfollow'⟩ := hf _ _ hab m' n' (hfollow.alike hmn)
    exact ⟨hresult', hfollow.trans hfollow'⟩
  | error => exact ⟨.error, hfollow⟩

/-- What follows a result that both runs have needs to be coupled for this result. -/
theorem bindSame {x y : Run α} {f : α → Run α'} {g : α → Run β'} (h : Couple S (Same q) x y)
    (hf : ∀ a, q a → Couple S R' (f a) (g a)) : Couple S R' (x >>= f) (y >>= g) := by
  refine h.bind ?_
  rintro a _ ⟨rfl, ha⟩
  exact hf a ha

theorem tryCatch {x : Run α} {y : Run β} {f : Failure → Run α} {g : Failure → Run β}
    (h : Couple S R x y) (hf : ∀ failure, Couple S R (f failure) (g failure)) :
    Couple S R (MonadExcept.tryCatch x f) (MonadExcept.tryCatch y g) := by
  intro m n hmn
  obtain ⟨hresult, hfollow⟩ := h m n hmn
  rw [Run.run_tryCatch, Run.run_tryCatch]
  rcases hx : x.run.run m with ⟨r, m'⟩
  rcases hy : y.run.run n with ⟨r', n'⟩
  rw [hx, hy] at hresult hfollow
  cases hresult with
  | ok hab => exact ⟨.ok hab, hfollow⟩
  | error =>
    obtain ⟨hresult', hfollow'⟩ := hf _ m' n' (hfollow.alike hmn)
    exact ⟨hresult', hfollow.trans hfollow'⟩

theorem atLine {x : Run α} {y : Run β} {line : Nat} (h : Couple S R x y) :
    Couple S R (Run.atLine line x) (Run.atLine line y) := h.tryCatch fun _ => throw

theorem weaken {R₁ : α → β → Prop} {x : Run α} {y : Run β} (h : Couple S R x y)
    (hR : ∀ a b, R a b → R₁ a b) : Couple S R₁ x y :=
  fun m n hmn => ⟨(h m n hmn).1.weaken hR, (h m n hmn).2⟩

/-- What is asked of code plays no part in how two runs are compared. -/
theorem transfer {T : Setting} {x : Run α} {y : Run β} (hevents : S.events = T.events)
    (hpolicy : S.policy = T.policy) (h : Couple S R x y) : Couple T R x y := by
  intro m n hmn
  have htrusted := hmn.trusted
  have hbefore := hmn.events
  rw [← hpolicy] at htrusted
  rw [← hevents] at hbefore
  obtain ⟨hresult, hfollow⟩ := h m n ⟨hmn.spaces, hmn.closures, htrusted, hbefore⟩
  have htrusted' := hfollow.trusted
  have hwritten := hfollow.written
  rw [hpolicy] at htrusted'
  rw [hevents] at hwritten
  exact ⟨hresult, hfollow.spaces, hfollow.closures, htrusted', hwritten⟩

theorem ite {c : Prop} [Decidable c] {x x' : Run α} {y y' : Run β} (h : c → Couple S R x y)
    (h' : ¬c → Couple S R x' y') : Couple S R (if c then x else x') (if c then y else y') := by
  split
  · exact h ‹_›
  · exact h' ‹_›

/-! ### Memory -/

theorem log {event event' : LogEvent} (h : S.events.Written [event] [event']) :
    Couple S (Same fun _ => True) (Run.log event) (Run.log event') :=
  fun _ _ hmn => ⟨.ok (.of trivial), hmn.spaces, hmn.closures, hmn.trusted, [event], [event'], h,
    rfl, rfl⟩

/-- Both runs see related values brought up to date, if they are related whatever trusted
entries the cells hold. -/
theorem refreshed {R : Value → Value → Prop} {v w : Value} (hvw : R v w)
    (hupdate : ∀ cells, Value.Trusted.Held S.policy cells → R (v.update cells) (w.update cells)) :
    Couple S R (Run.refresh v) (Run.refresh w) := by
  intro m n hmn
  have hrelated : R (m.seen v) (n.seen w) := by
    rw [← Memory.seen_congr hmn.spaces, Memory.seen, Memory.seen]
    split
    · exact hvw
    · exact hupdate _ (Value.Trusted.held hmn.trusted _)
  exact ⟨.ok hrelated, hmn.refl⟩

/-- Both runs see the same value brought up to date. -/
theorem refresh {v : Value} (hv : v.Trusted S.policy) :
    Couple S (Same (Value.Trusted S.policy)) (Run.refresh v) (Run.refresh v) :=
  refreshed (.of hv) fun _ hcells => .of (hv.update hcells)

theorem readCell (cell : Nat) : Couple S (Same fun entries : List (Value × Value) =>
    ∀ e ∈ entries, Value.TrustedEntry S.policy e) (Run.readCell cell) (Run.readCell cell) := by
  intro m n hmn
  refine ⟨.ok ⟨congrArg (fun s : List (List (Value × Value)) => s[cell]?.getD []) hmn.spaces, ?_⟩,
    hmn.refl⟩
  cases hcell : m.spaces[cell]? with
  | none => simp
  | some entries => exact hmn.trusted entries (List.mem_of_getElem? hcell)

theorem newCell {entries : List (Value × Value)}
    (h : ∀ e ∈ entries, Value.TrustedEntry S.policy e) :
    Couple S (Same fun _ => True) (Run.newCell entries) (Run.newCell entries) := by
  intro m n hmn
  refine ⟨.ok ⟨congrArg List.length hmn.spaces, trivial⟩, congrArg (· ++ [entries]) hmn.spaces,
    hmn.closures, ?_, [], [], S.events.nil, (List.append_nil _).symm, (List.append_nil _).symm⟩
  intro held hheld
  rcases List.mem_append.1 hheld with hheld | hheld
  · exact hmn.trusted held hheld
  · rw [List.mem_singleton.1 hheld]
    exact h

theorem setCell (cell : Nat) {key value : Value} (hkey : key.Trusted S.policy)
    (hvalue : value.Trusted S.policy) :
    Couple S (Same fun _ => True) (Run.setCell cell key value) (Run.setCell cell key value) := by
  intro m n hmn
  refine ⟨.ok (.of trivial), ?_, hmn.closures, ?_, [], [], S.events.nil,
    (List.append_nil _).symm, (List.append_nil _).symm⟩
  · exact congrArg (fun s : List (List (Value × Value)) => s.modify cell _) hmn.spaces
  · intro held hheld
    obtain ⟨i, hi⟩ := List.mem_iff_getElem?.1 hheld
    have hmodify : (m.spaces.modify cell (Value.insert key value))[i]? = some held := hi
    rw [List.getElem?_modify] at hmodify
    obtain ⟨entries, hentries, rfl⟩ := Option.map_eq_some_iff.1 hmodify
    have htrusted := hmn.trusted entries (List.mem_of_getElem? hentries)
    split
    · exact Value.Trusted.insert hkey hvalue htrusted
    · exact htrusted

theorem newClosure : Couple S (Same fun _ => True) Run.newClosure Run.newClosure :=
  fun _ _ hmn => ⟨.ok ⟨hmn.closures, trivial⟩, hmn.spaces, congrArg (· + 1) hmn.closures,
    hmn.trusted, [], [], S.events.nil, (List.append_nil _).symm, (List.append_nil _).symm⟩

theorem toEnd {x : Run α} {y : Run β} (h : Couple S R x y) : Couple S R x.toEnd y.toEnd := by
  intro m n hmn
  obtain ⟨hresult, hfollow⟩ := h m n hmn
  rw [Run.run_toEnd, Run.run_toEnd, ← hmn.spaces]
  refine ⟨hresult, ?_⟩
  split
  · exact ⟨rfl, hmn.closures, hmn.trusted, hfollow.written⟩
  · exact hfollow

/-- A failure that is contained is reported alike. -/
theorem contained {name : Text} {x y : Run Text} (h : Couple S (Same fun _ => True) x y) :
    Couple S (Same (Value.Trusted S.policy)) (Function.contained name x)
      (Function.contained name y) := by
  refine tryCatch (h.bindSame fun text _ => pure (.of (.ofMarkup text))) fun failure => ?_
  exact (log (S.events.failed name failure)).bindSame fun _ _ => pure (.of (.ofMarkup []))

/-- Runs that go alike have the same outcome, if only equal events are related. -/
theorem result_eq {x y : Run α} (h : Couple S (Same q) x y) (hbefore : S.events.Before [] [])
    (hwritten : ∀ w w', S.events.Written w w' → w = w') : x.result = y.result := by
  have halike : (Memory.ofEvents []).Alike S (.ofEvents []) :=
    ⟨rfl, rfl, by simp [Memory.ofEvents], hbefore⟩
  obtain ⟨hresult, hfollow⟩ := h _ _ halike
  obtain ⟨w, w', hw, hx, hy⟩ := hfollow.written
  refine Prod.ext hresult.eq_of_same ?_
  rw [hwritten w w' hw] at hx
  exact hx.trans hy.symm

end Couple

end Componentry.Template
