import Componentry.Proofs.Coupling.Definitions
import Componentry.Proofs.Levels.Execution

/-! # Recursion is bounded, and the depth counter balances

Definitions may invoke each other and themselves without end, so an invocation counts how
deep it is nested: a counter goes up before a definition is run and down behind it, also
when it fails, and where the counter has reached the limit nothing is run
(`Namespace.countedRun`).

`Base.invoke` has no counter: it recurses on the levels that are left.  Nor does a template
count how deep it includes others, calls its macros or runs loops inside of loops: that takes
levels of jumps as well, of which `Template.render` has so many.  Where levels are given by
the definition, a run ends in any case.  So here is shown that it ends without them.
Invocations that count need not end by themselves; they are unfolded so many times, with
anything at all below, and so are the jumps of their templates (`Namespace.unfolded`).  The
counter is a cell among the events: an event sets it, and the last one that does holds its
value (`Depth.current`).

`Namespace.unfolded_bounded` says of a call at depth `k`:

* below the limit nothing is called, so from `64 - k` unfoldings on the result does not
  depend on what is there, nor on what is below the jumps: the recursion ends;
* the result and the events are those of `Base.invoke` with `64 - k` levels left;
* the counter stays between `k` and the limit, and it is `k` again behind the call,
  whether the call fails or not;
* at the limit the call fails at once, and the function that invokes makes empty markup of
  it.
-/
namespace Componentry

open Template

/-! ## The counter -/

namespace Depth

/-- The event that sets the counter. -/
def mark (n : Nat) : LogEvent := ⟨.debug, "depth".toList, [("depth", .number n)]⟩

/-- What an event sets the counter to, if it does. -/
def value? (e : LogEvent) : Option Nat :=
  match e.fields with
  | [(_, .number n)] => if e = mark n then some n else none
  | _ => none

/-- What events set the counter to, one after the other. -/
def values (log : List LogEvent) : List Nat := log.filterMap value?

/-- The counter: what it has been set to last, and nothing before that. -/
def current (log : List LogEvent) : Nat := (values log).getLast?.getD 0

/-- The events that do not set the counter. -/
def plain (log : List LogEvent) : List LogEvent := log.filter fun e => (value? e).isNone

def get : Run Nat := return current (← MonadState.get).events

def set (n : Nat) : Run Unit := Run.log (mark n)

/-- Goes one level deeper, unless the limit has been reached. -/
def enter (name : Text) : Run Unit := do
  let depth ← get
  if invocationLimit ≤ depth then Run.fail (.tooDeep name) else set (depth + 1)

/-- Goes one level up. -/
def leave : Run Unit := do set ((← get) - 1)

/-- Runs something one level deeper, and goes up again behind it, also if it fails. -/
def guarded {α : Type} (name : Text) (run : Run α) : Run α := do
  enter name
  let a ← tryCatch run fun failure => do
    leave
    throw failure
  leave
  return a

end Depth

namespace Namespace

variable (ns : Namespace) (jumps : Jump → Exec Text) (more : Nat)

/-- Renders the template of a name on more levels of jumps than it has, with anything below
them. -/
def renderAbove (invoker : Invoker) (name : Text) (data : Value) : Run Text :=
  match ns.find? name with
  | none => Run.fail .templateNotFound
  | some t =>
    Template.renderAbove jumps (ns.library.levels + more) ns.library invoker name t.body data.scope

/-- Runs definitions in a copy of the namespace, and counts how deep they are nested. -/
def countedRun (invoker : Invoker) : Invoker := fun name props => Depth.guarded name do
  let installed ← ns.install props.allSlotSources
  installed.renderAbove jumps more invoker name props

/-- Definitions that run each other, unfolded so many times; below that `bottom` runs
them. -/
def unfolded (bottom : Invoker) : Nat → Invoker
  | 0 => bottom
  | n + 1 => ns.countedRun jumps more (unfolded bottom n)

/-- The levels of jumps are enough, so a run that counts goes like any other. -/
theorem countedRun_eq (invoker : Invoker) : ns.countedRun jumps more invoker =
    fun name props => Depth.guarded name (ns.partialRun invoker name props) := by
  have hrender (installed : Namespace) :
      installed.renderAbove jumps more invoker = installed.render invoker := by
    funext name data
    unfold renderAbove render
    cases installed.find? name with
    | none => rfl
    | some t => exact renderAbove_eq jumps (Nat.le_add_right _ more) invoker name t.body _
  unfold countedRun partialRun
  simp only [hrender]

end Namespace

/-! ## Events and the counter -/

namespace Depth

theorem value?_mark (n : Nat) : value? (mark n) = some n := by simp [value?, mark]

theorem values_append (v w : List LogEvent) : values (v ++ w) = values v ++ values w :=
  List.filterMap_append

theorem current_mark (log : List LogEvent) (n : Nat) : current (log ++ [mark n]) = n := by
  simp [current, values, value?_mark]

theorem plain_mark (log : List LogEvent) (n : Nat) : plain (log ++ [mark n]) = plain log := by
  simp [plain, value?_mark]

/-- A memory with another event. -/
def report (m : Memory) (e : LogEvent) : Memory := { m with events := m.events ++ [e] }

theorem run_enter {m : Memory} (name : Text) (h : current m.events < invocationLimit) :
    (enter name).run.run m = (.ok (), report m (mark (current m.events + 1))) := by
  have hget : get.run.run m = (.ok (current m.events), m) := rfl
  rw [enter, Run.run_bind, hget]
  simp only [if_neg (Nat.not_le.2 h)]
  rfl

theorem run_enter_limit {m : Memory} (name : Text) (h : invocationLimit ≤ current m.events) :
    (enter name).run.run m = (.error ⟨.tooDeep name, none⟩, m) := by
  have hget : get.run.run m = (.ok (current m.events), m) := rfl
  rw [enter, Run.run_bind, hget]
  simp only [if_pos h]
  rfl

/-- **The counter goes up before a run and down behind it**, also if the run fails. -/
theorem run_guarded {α : Type} {m m' : Memory} {name : Text} {run : Run α}
    {r : Except Failure α} (h : current m.events < invocationLimit)
    (hrun : run.run.run (report m (mark (current m.events + 1))) = (r, m')) :
    (guarded name run).run.run m = (r, report m' (mark (current m'.events - 1))) := by
  rw [guarded, Run.run_bind, run_enter name h]
  simp only [Run.run_bind, Run.run_tryCatch, hrun]
  cases r with
  | ok a => rfl
  | error failure => rfl

/-- At the limit nothing is run. -/
theorem run_guarded_limit {α : Type} {m : Memory} (name : Text) (run : Run α)
    (h : invocationLimit ≤ current m.events) :
    (guarded name run).run.run m = (.error ⟨.tooDeep name, none⟩, m) := by
  rw [guarded, Run.run_bind, run_enter_limit name h]

end Depth

/-! ## Runs that count -/

namespace Depth

/-- Events behind which the counter is `k` if it was before; on the way it stays between `k`
and the limit. -/
structure Balanced (k : Nat) (log : List LogEvent) : Prop where
  last : ∀ n, (values log).getLast? = some n → n = k
  bounds : ∀ n ∈ values log, k ≤ n ∧ n ≤ invocationLimit

theorem balanced_of_values {k : Nat} {log : List LogEvent} (h : values log = []) :
    Balanced k log := ⟨by simp [h], by simp [h]⟩

theorem Balanced.append {k : Nat} {v w : List LogEvent} (hv : Balanced k v) (hw : Balanced k w) :
    Balanced k (v ++ w) := by
  refine ⟨fun n hn => ?_, fun n hn => ?_⟩
  · rw [values_append, List.getLast?_append] at hn
    rcases Option.or_eq_some_iff.1 hn with hn | ⟨-, hn⟩
    · exact hw.last n hn
    · exact hv.last n hn
  · rw [values_append] at hn
    exact (List.mem_append.1 hn).elim (hv.bounds n) (hw.bounds n)

theorem Balanced.current {k : Nat} {log w : List LogEvent} (hw : Balanced k w)
    (h : current log = k) : current (log ++ w) = k := by
  rw [Depth.current, values_append, List.getLast?_append]
  cases hlast : (values w).getLast? with
  | none => exact h
  | some n => exact hw.last n hlast

/-- One level deeper, the counter is `k` again behind the events and the mark that follows. -/
theorem Balanced.guarded {k : Nat} (hk : k < invocationLimit) {w : List LogEvent}
    (hw : Balanced (k + 1) w) : Balanced k ((mark (k + 1) :: w) ++ [mark k]) := by
  refine ⟨fun n hn => ?_, fun n hn => ?_⟩
  · rw [values_append, List.getLast?_append] at hn
    simpa [values, value?_mark, eq_comm] using hn
  · rw [values_append] at hn
    simp only [values, List.filterMap_cons, value?_mark, List.filterMap_nil, List.mem_append,
      List.mem_cons, List.not_mem_nil, or_false] at hn
    rcases hn with (rfl | hn) | rfl
    · omega
    · have hbounds := hw.bounds n hn
      omega
    · omega

theorem plain_append (v w : List LogEvent) : plain (v ++ w) = plain v ++ plain w :=
  List.filter_append ..

/-- The events of two runs of which the first counts, at depth `k`: the second reports the
same events besides. -/
def counting (k : Nat) : EventRelation where
  Before log log' := current log = k ∧ log' = plain log
  Written w w' := Balanced k w ∧ w' = plain w
  nil := ⟨balanced_of_values rfl, rfl⟩
  append := by
    rintro v _ w _ ⟨hv, rfl⟩ ⟨hw, rfl⟩
    exact ⟨hv.append hw, (plain_append v w).symm⟩
  before := by
    rintro l _ w _ ⟨hl, rfl⟩ ⟨hw, rfl⟩
    exact ⟨hw.current hl, (plain_append l w).symm⟩
  failed _ _ := ⟨balanced_of_values rfl, rfl⟩

/-- At depth `k` the first run does what the second does without the counter. -/
def Counts {α : Type} (k : Nat) (x y : Run α) : Prop :=
  Couple (.lenient (counting k)) (Same fun _ => True) x y

/-- **Behind a guard the counter is what it was before.** -/
theorem Counts.guarded {α : Type} {k : Nat} {x y : Run α} (hk : k < invocationLimit)
    (h : Counts (k + 1) x y) (name : Text) : Counts k (Depth.guarded name x) y := by
  intro m n hmn
  obtain ⟨hcurrent, hplain⟩ := hmn.events
  have hdeeper : (report m (mark (k + 1))).Alike (.lenient (counting (k + 1))) n :=
    ⟨hmn.spaces, hmn.closures, hmn.trusted, current_mark m.events (k + 1),
      by rw [report, plain_mark, hplain]⟩
  obtain ⟨hresult, hfollow⟩ := h _ _ hdeeper
  obtain ⟨w, w', ⟨hw, rfl⟩, hm, hn⟩ := hfollow.written
  obtain ⟨hbehind, -⟩ := (hfollow.alike hdeeper).events
  rcases hrun : x.run.run (report m (mark (k + 1))) with ⟨r, m'⟩
  rw [hrun] at hresult hfollow hm hbehind
  rw [← hcurrent] at hrun
  rw [run_guarded (hcurrent ▸ hk) hrun, hbehind, Nat.add_sub_cancel]
  refine ⟨hresult, hfollow.spaces, hfollow.closures, hfollow.trusted,
    (mark (k + 1) :: w) ++ [mark k], plain w, ⟨hw.guarded hk, ?_⟩, ?_, hn⟩
  · rw [plain_mark]
    simp [plain, value?_mark]
  · show m'.events ++ [mark k] = _
    rw [hm, report]
    simp

end Depth

namespace Namespace

/-- **Unfolded far enough, invocations that count do what `Base.invoke` does** with as many
levels as are left below the depth at hand. -/
theorem counts_unfolded (ns : Namespace) (jumps : Jump → Exec Text) (more : Nat)
    (bottom : Invoker) {n k : Nat} (hk : k ≤ invocationLimit) (hn : invocationLimit < n + k)
    (name : Text) (props : Value) :
    Depth.Counts k (ns.unfolded jumps more bottom n name props)
      ((Base.finished ns).invoke (invocationLimit - k) name props) := by
  induction n generalizing k name props with
  | zero => omega
  | succ n ih =>
    rcases Nat.lt_or_eq_of_le hk with hlt | rfl
    · -- One level deeper one level less is left.
      have hinvoke : Invoker.Coupled (.lenient (Depth.counting (k + 1)))
          (ns.unfolded jumps more bottom n)
          ((Base.finished ns).invoke (invocationLimit - (k + 1))) := fun name props _ =>
        ih (by omega) (by omega) name props
      have hdata : (Setting.lenient (Depth.counting (k + 1))).ForSameData :=
        Setting.forSameData_lenient fun _ _ => ⟨Depth.balanced_of_values rfl, rfl⟩
      have hlevels : invocationLimit - k = invocationLimit - (k + 1) + 1 := by omega
      rw [hlevels, Base.invoke, unfolded, countedRun_eq]
      exact .guarded hlt (couple_partialRun hdata ns.passes_lenient hinvoke name
        (Setting.trusted_lenient props)) name
    · rw [Nat.sub_self, Base.invoke]
      intro m n hmn
      have hlimit : invocationLimit ≤ Depth.current m.events := Nat.le_of_eq hmn.events.1.symm
      rw [unfolded, countedRun, Depth.run_guarded_limit name _ hlimit]
      exact ⟨.error, hmn.refl⟩

/-- **Recursion is bounded and the counter balances.**  Take any call at a depth up to the
limit.  Unfolded far enough that the limit is passed, it gives the result of `Base.invoke`
with the levels that are left, reports its events and makes what it makes, whatever is called
below, and whatever runs the jumps of templates below the levels that these have.  The counter
stays between its value before the call and the limit, so nothing is run below the limit, and
behind the call it has this value again, whether the call fails or not.  At the limit the call
fails at once: nothing is installed or run, and the function that invokes gives empty markup
and reports the failure. -/
theorem unfolded_bounded (ns : Namespace) (name : Text) (props : Value) {m : Memory}
    (h : Depth.current m.events ≤ invocationLimit) :
    (∀ (jumps : Jump → Exec Text) (more : Nat) (bottom : Invoker) (n : Nat),
      invocationLimit < n + Depth.current m.events →
      ∃ (result : Except Failure Text) (m' : Memory) (written : List LogEvent),
        ((Base.finished ns).invoke (invocationLimit - Depth.current m.events) name props).run.run
            { m with events := Depth.plain m.events } =
          (result, { m' with events := Depth.plain (m.events ++ written) }) ∧
        (ns.unfolded jumps more bottom n name props).run.run m =
          (result, { m' with events := m.events ++ written }) ∧
        Depth.current (m.events ++ written) = Depth.current m.events ∧
        ∀ depth ∈ Depth.values written, Depth.current m.events ≤ depth ∧ depth ≤ invocationLimit) ∧
    (Depth.current m.events = invocationLimit →
      ∀ (jumps : Jump → Exec Text) (more : Nat) (invoker : Invoker),
        (ns.countedRun jumps more invoker name props).run.run m =
          (.error ⟨.tooDeep name, none⟩, m) ∧
        (Function.contained name (ns.countedRun jumps more invoker name props)).run.run m =
          (.ok (.ofMarkup []),
            Depth.report m (Function.failedEvent name ⟨.tooDeep name, none⟩))) := by
  refine ⟨fun jumps more bottom n hn => ?_, fun hlimit jumps more invoker => ?_⟩
  · have halike : m.Alike (.lenient (Depth.counting (Depth.current m.events)))
        { m with events := Depth.plain m.events } :=
      ⟨rfl, rfl, fun _ _ e _ => ⟨Setting.trusted_lenient e.1, Setting.trusted_lenient e.2⟩,
        rfl, rfl⟩
    obtain ⟨hresult, hfollow⟩ := counts_unfolded ns jumps more bottom h hn name props _ _ halike
    obtain ⟨written, _, ⟨hw, rfl⟩, hm, hm'⟩ := hfollow.written
    have hspaces := hfollow.spaces
    have hclosures := hfollow.closures
    have hequal := hresult.eq_of_same
    rcases hrun : (ns.unfolded jumps more bottom n name props).run.run m with
      ⟨result, events, spaces, closures⟩
    rcases hrun' : ((Base.finished ns).invoke (invocationLimit - Depth.current m.events) name
      props).run.run { m with events := Depth.plain m.events } with
      ⟨result', events', spaces', closures'⟩
    rw [hrun] at hm hspaces hclosures hequal
    rw [hrun'] at hm' hspaces hclosures hequal
    dsimp only at hm hm' hspaces hclosures hequal
    rw [← Depth.plain_append] at hm'
    subst hm hm' hspaces hclosures hequal
    exact ⟨result, ⟨[], spaces, closures⟩, written, rfl, rfl, hw.current rfl, hw.bounds⟩
  · have hrun : (ns.countedRun jumps more invoker name props).run.run m =
        (.error ⟨.tooDeep name, none⟩, m) :=
      Depth.run_guarded_limit name _ (Nat.le_of_eq hlimit.symm)
    refine ⟨hrun, ?_⟩
    rw [Function.contained, Run.run_tryCatch, Run.run_bind, hrun]
    rfl

/-- A definition that invokes itself without end: `x{{ invoke("Loop", __ctx) }}`. -/
def runaway : Namespace :=
  (empty.add "Loop".toList
    "x\x7b\x7b invoke(\"Loop\", __ctx) \x7d\x7d".toList).toOption.getD empty

theorem unfolded_runaway :
    Depth.current (Memory.ofEvents []).events ≤ invocationLimit ∧ ∃ result m',
      (runaway.unfolded (fun _ => Run.fail .dropped) 0 (fun _ _ => Run.fail .dropped) 65
          "Loop".toList .undefined).run.run (.ofEvents []) = (result, m') ∧
        result.toOption = some (List.replicate 64 'x') ∧ Depth.current m'.events = 0 ∧
        ∀ depth ∈ Depth.values m'.events, depth ≤ 64 := by
  have h : Depth.current (Memory.ofEvents []).events ≤ invocationLimit := by decide
  obtain ⟨result, m', written, hinvoke, hrun, hcurrent, hvalues⟩ :=
    (unfolded_bounded runaway "Loop".toList .undefined h).1 (fun _ => Run.fail .dropped) 0
      (fun _ _ => Run.fail .dropped) 65 (by decide)
  have htext : (((Base.finished runaway).invoke 64 "Loop".toList .undefined).run.run
      (.ofEvents [])).1.toOption = some (List.replicate 64 'x') := by decide +kernel
  have hresult : result.toOption = some (List.replicate 64 'x') := by
    rw [← htext]
    exact congrArg (fun r => r.1.toOption) hinvoke.symm
  exact ⟨h, result, _, hrun, hresult, hcurrent, fun depth hdepth => (hvalues depth hdepth).2⟩

end Namespace

end Componentry
