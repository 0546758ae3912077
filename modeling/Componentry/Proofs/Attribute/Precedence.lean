import Componentry.Proofs.Markup.WrittenAttributes
import Componentry.Proofs.Slots.Precedence
import Componentry.Proofs.Template.Paths
import Componentry.Proofs.Template.Refusals

/-! # The value of props

The attributes of a tag, and the entries that are added behind them, are written as one
expression.  For attributes whose values are paths, flags or texts without holes, this
module says when the template parser reads it back, and what it evaluates to.

It is read back if and only if there are at most a thousand entries and the spreads are
not too many for the levels of nesting (`PathProps.parse_source`).  Then it evaluates to the
spread's own value if there is one spread and no entry, and else to the map that holds
under each key the value of the last entry with that key, or else what the last spread
that has the key holds under it (`PathProps.IsResult`).
-/
namespace Componentry

open Template Template.Parser Run

/-! ## Code that takes so many levels -/

namespace Template

/-- The code `w` is read as the expression `e` on `k` or more levels, and refused on
fewer. -/
structure Takes (line k : Nat) (w : Text) (e : Expr) : Prop where
  code : ∀ n, k ≤ n → Code line n w e
  refused : ∀ n, n < k → Refused line n w

namespace Takes

variable {line k : Nat} {w : Text} {e : Expr}

/-- On every level, code that takes so many is read or refused. -/
theorem code_or_refused (h : Takes line k w e) (n : Nat) : Code line n w e ∨ Refused line n w := by
  by_cases hn : n < k
  · exact Or.inr (h.refused n hn)
  · exact Or.inl (h.code n (by omega))

theorem of_succ (h : ∀ n, Code line (n + 1) w e) : Takes line 1 w e where
  code n hn := by
    obtain ⟨n, rfl⟩ : ∃ m, n = m + 1 := ⟨n - 1, by omega⟩
    exact h n
  refused n hn := by
    obtain rfl : n = 0 := by omega
    exact (h 0).refused_zero

theorem group (h : Takes line k w e) : Takes line (k + 2) ('(' :: w ++ [')']) e where
  code n hn := by
    obtain ⟨n, rfl⟩ : ∃ m, n = m + 2 := ⟨n - 2, by omega⟩
    exact (Operand.group (h.code n (by omega))).code
  refused n hn := by
    match n with
    | 0 => exact (Operand.group (h.code k (Nat.le_refl k))).code.refused_zero
    | 1 => exact (h.code k (Nat.le_refl k)).refused_group
    | n + 2 => exact (h.refused n (by omega)).group

/-- A call takes one level more than its arguments. -/
theorem call {f : Text} (hf : isIdentifier f = true) (hconst : constant? f = none)
    (hnot : f ≠ Keyword.kNot.text) {args : List (Text × Expr)}
    (hargs : ∀ arg ∈ args, ∃ j, j ≤ k ∧ Takes line j arg.1 arg.2)
    (hmax : k = 0 ∨ ∃ arg ∈ args, Takes line k arg.1 arg.2) (hlen : args.length ≤ 2000) :
    Takes line (k + 1) (Props.call f (args.map Prod.fst))
      (.call (.var f line) (args.map fun arg => (.positional, arg.2))) := by
  have hcode : ∀ n, k ≤ n → Code line (n + 1) (Props.call f (args.map Prod.fst))
      (.call (.var f line) (args.map fun arg => (.positional, arg.2))) := by
    intro n hn
    refine (Operand.call hf hconst hnot (fun arg harg => ?_) hlen).code
    obtain ⟨j, hj, htakes⟩ := hargs arg harg
    exact htakes.code n (by omega)
  refine ⟨fun n hn => ?_, fun n hn => ?_⟩
  · obtain ⟨n, rfl⟩ : ∃ m, n = m + 1 := ⟨n - 1, by omega⟩
    exact hcode n (by omega)
  · cases n with
    | zero => exact (hcode k (Nat.le_refl k)).refused_zero
    | succ n =>
      obtain ⟨arg, harg, htakes⟩ := hmax.resolve_left (by omega)
      refine Refused.call hf hconst hnot (fun arg harg => ?_)
        (Or.inr ⟨arg, harg, htakes.refused n (by omega)⟩)
      obtain ⟨j, -, htakes⟩ := hargs arg harg
      exact htakes.code_or_refused n

end Takes

end Template

/-! ## Entries -/

/-- What stands as the value of an entry: a quoted text, `true`, or a path, in parentheses
or without. -/
inductive EntryValue where
  | text (v : Text)
  | flag
  | group (p : MemberPath)
  | path (p : MemberPath)

namespace EntryValue

def source : EntryValue → Text
  | text v => Text.quote v
  | flag => ['t', 'r', 'u', 'e']
  | group p => '(' :: p.source ++ [')']
  | path p => p.source

def expr (line : Nat) : EntryValue → Expr
  | text v => .const (.string v) line
  | flag => .const (.bool true) line
  | group p => p.expr line
  | path p => p.expr line

/-- The value, where paths have the given values. -/
def value (values : MemberPath → Value) : EntryValue → Value
  | text v => .ofText v
  | flag => .bool true
  | group p => values p
  | path p => values p

/-- Whether a path of the entry has its given value in a scope. -/
def IsGiven (values : MemberPath → Value) (data : Value) (scope : Scope) (mem : Memory) :
    EntryValue → Prop
  | text _ => True
  | flag => True
  | group p => p.value data scope mem = .ok (values p)
  | path p => p.value data scope mem = .ok (values p)

/-- The levels of nesting that an entry takes. -/
def levels : EntryValue → Nat
  | group _ => 3
  | _ => 1

theorem takes (v : EntryValue) (line : Nat) : Takes line v.levels v.source (v.expr line) := by
  cases v with
  | text v => exact .of_succ fun n => (Operand.string line n v).code
  | flag =>
    exact .of_succ fun n => (Term.constant (by decide) (by decide) (by decide) line n).operand.code
  | group p => exact (Takes.of_succ fun n => (p.term line n).operand.code).group
  | path p => exact .of_succ fun n => (p.term line n).operand.code

theorem gives {h : Host} {scope : Scope} {mem : Memory} {values : MemberPath → Value} {v : EntryValue}
    (hv : v.IsGiven values h.data scope mem) (line : Nat) :
    ((v.expr line).eval h scope).GivesIn mem (v.value values) := by
  cases v with
  | text v => exact .pure _
  | flag => exact .pure _
  | group p => exact p.gives hv line
  | path p => exact p.gives hv line

/-- Whether an entry stands in parentheses. -/
def isGroup : EntryValue → Bool
  | group _ => true
  | _ => false

theorem levels_le (v : EntryValue) : v.levels ≤ 3 := by
  cases v <;> simp [levels]

theorem levels_of_isGroup {v : EntryValue} (h : v.isGroup = true) : v.levels = 3 := by
  cases v with
  | group p => rfl
  | _ => cases h

theorem levels_of_not_isGroup {v : EntryValue} (h : v.isGroup = false) : v.levels = 1 := by
  cases v with
  | group p => cases h
  | _ => rfl

end EntryValue

/-! ## Props -/

/-- Props whose spreads are paths. -/
structure PathProps where
  spreads : List MemberPath
  entries : List (Text × EntryValue)

namespace PathProps

variable {line : Nat}

/-- The props themselves. -/
def props (p : PathProps) : Props where
  spreads := p.spreads.map MemberPath.source
  entries := p.entries.map fun e => (e.1, e.2.source)

/-- The levels of nesting that entries take. -/
def entryLevels (entries : List (Text × EntryValue)) : Nat :=
  if entries.isEmpty then 1 else if entries.any (·.2.isGroup) then 4 else 2

/-- The levels of nesting that props take. -/
def levels (p : PathProps) : Nat :=
  if p.entries.isEmpty then max 1 p.spreads.length else p.spreads.length + entryLevels p.entries

/-- The expression that entries are read as. -/
def entriesExpr (line : Nat) (entries : List (Text × EntryValue)) : Expr :=
  dictExpr (entries.map fun e => (e.1, e.2.expr line)) line

/-- Spreads merged from left to right, with an expression behind them. -/
def mergeExpr (line : Nat) (spreads : List MemberPath) (last : Expr) : Expr :=
  spreads.foldr (fun s merged => .call (.var Props.mergeName line)
    [(.positional, s.expr line), (.positional, merged)]) last

/-- The expression that props are read as. -/
def expr (line : Nat) (p : PathProps) : Expr :=
  match p.entries with
  | [] =>
    match p.spreads.getLast? with
    | none => entriesExpr line []
    | some last => mergeExpr line p.spreads.dropLast (last.expr line)
  | entries => mergeExpr line p.spreads (entriesExpr line entries)

/-- The arguments of the call that makes a map of entries. -/
def arguments (line : Nat) (entries : List (Text × EntryValue)) : List (Text × Expr) :=
  dictArguments (entries.map fun e => (e.1, e.2.source, e.2.expr line)) line

theorem length_arguments (line : Nat) (entries : List (Text × EntryValue)) :
    (arguments line entries).length = 2 * entries.length := by
  rw [arguments, length_dictArguments, List.length_map]

theorem call_arguments (line : Nat) (entries : List (Text × EntryValue)) :
    Props.call Props.dictName ((arguments line entries).map Prod.fst) =
        Props.dictSource (entries.map fun e => (e.1, e.2.source)) ∧
      Expr.call (.var Props.dictName line)
          ((arguments line entries).map fun arg => (.positional, arg.2)) =
        entriesExpr line entries := by
  constructor
  · rw [arguments, ← dictSource_eq_call]
    simp [Function.comp_def]
  · simp [arguments, dictArguments, entriesExpr, dictExpr, List.map_flatMap, List.flatMap_map]

theorem takes_arguments {entries : List (Text × EntryValue)} {arg : Text × Expr}
    (h : arg ∈ arguments line entries) :
    ∃ e ∈ entries, Takes line 1 arg.1 arg.2 ∨ Takes line e.2.levels arg.1 arg.2 := by
  obtain ⟨e, he, harg⟩ := List.mem_flatMap.1 h
  obtain ⟨e, hmem, rfl⟩ := List.mem_map.1 he
  refine ⟨e, hmem, ?_⟩
  rcases List.mem_cons.1 harg with rfl | harg
  · exact Or.inl (EntryValue.takes (.text e.1) line)
  · rw [List.mem_singleton.1 harg]
    exact Or.inr (e.2.takes line)

theorem mem_arguments {entries : List (Text × EntryValue)} {e : Text × EntryValue}
    (h : e ∈ entries) :
    (Text.quote e.1, .const (.string e.1) line) ∈ arguments line entries ∧
      (e.2.source, e.2.expr line) ∈ arguments line entries := by
  have hmem : (e.1, e.2.source, e.2.expr line) ∈
      entries.map fun e => (e.1, e.2.source, e.2.expr line) := List.mem_map_of_mem h
  exact ⟨List.mem_flatMap.2 ⟨_, hmem, by simp⟩, List.mem_flatMap.2 ⟨_, hmem, by simp⟩⟩

theorem takes_dict {entries : List (Text × EntryValue)} {k : Nat} (h : entries.length ≤ 1000)
    (hlevels : ∀ e ∈ entries, 1 ≤ k ∧ e.2.levels ≤ k)
    (hmax : k = 0 ∨ ∃ arg ∈ arguments line entries, Takes line k arg.1 arg.2) :
    Takes line (k + 1) (Props.dictSource (entries.map fun e => (e.1, e.2.source)))
      (entriesExpr line entries) := by
  obtain ⟨hsource, hexpr⟩ := call_arguments line entries
  have hlen : (arguments line entries).length ≤ 2000 := by
    rw [length_arguments]
    omega
  rw [← hsource, ← hexpr]
  refine Takes.call (by decide) (by decide) (by decide) (fun arg harg => ?_) hmax hlen
  obtain ⟨e, he, htakes⟩ := takes_arguments harg
  rcases htakes with htakes | htakes
  · exact ⟨1, (hlevels e he).1, htakes⟩
  · exact ⟨e.2.levels, (hlevels e he).2, htakes⟩

/-- The code of a map takes one level more than the deepest of its entries. -/
theorem takes_entries (line : Nat) {entries : List (Text × EntryValue)}
    (h : entries.length ≤ 1000) :
    Takes line (entryLevels entries) (Props.dictSource (entries.map fun e => (e.1, e.2.source)))
      (entriesExpr line entries) := by
  cases entries with
  | nil => exact takes_dict h (by simp) (Or.inl rfl)
  | cons first entries =>
    by_cases hgroup : (first :: entries).any (·.2.isGroup) = true
    · have hk : entryLevels (first :: entries) = 3 + 1 := by
        rw [entryLevels, if_neg (by simp), if_pos hgroup]
      obtain ⟨e, he, hgroup⟩ := List.any_eq_true.1 hgroup
      have hthree : e.2.levels = 3 := EntryValue.levels_of_isGroup hgroup
      rw [hk]
      refine takes_dict h (fun e _ => ⟨by omega, e.2.levels_le⟩) (Or.inr ?_)
      exact ⟨_, (mem_arguments he).2, hthree ▸ e.2.takes line⟩
    · have hk : entryLevels (first :: entries) = 1 + 1 := by
        rw [entryLevels, if_neg (by simp), if_neg hgroup]
      rw [hk]
      refine takes_dict h (fun e he => ?_) (Or.inr ?_)
      · have hno : e.2.isGroup = false := by
          rw [List.any_eq_true] at hgroup
          exact eq_false_of_ne_true fun h => hgroup ⟨e, he, h⟩
        exact ⟨Nat.le_refl 1, Nat.le_of_eq (EntryValue.levels_of_not_isGroup hno)⟩
      · exact ⟨_, (mem_arguments List.mem_cons_self).1, EntryValue.takes (.text first.1) line⟩

/-- Every spread that is merged takes one level. -/
theorem takes_merge {k : Nat} {w : Text} {e : Expr} (hk : 1 ≤ k) (h : Takes line k w e)
    (spreads : List MemberPath) :
    Takes line (k + spreads.length) (Props.mergeSource (spreads.map MemberPath.source) w)
      (mergeExpr line spreads e) := by
  induction spreads with
  | nil => exact h
  | cons s spreads ih =>
    have hspread : Takes line 1 s.source (s.expr line) := EntryValue.takes (.path s) line
    let args := [(s.source, s.expr line), (Props.mergeSource (spreads.map MemberPath.source) w,
      mergeExpr line spreads e)]
    have hargs : ∀ arg ∈ args, ∃ j, j ≤ k + spreads.length ∧ Takes line j arg.1 arg.2 := by
      simp only [args, List.forall_mem_cons]
      exact ⟨⟨1, by omega, hspread⟩, ⟨_, Nat.le_refl _, ih⟩, by simp⟩
    have hcall := Takes.call (f := Props.mergeName) (by decide) (by decide) (by decide) hargs
      (Or.inr ⟨_, List.mem_cons_of_mem _ List.mem_cons_self, ih⟩) (by simp [args])
    exact hcall

/-- Spreads alone: the last one stands behind the others. -/
theorem source_concat (init : List MemberPath) (last : MemberPath) (line : Nat) :
    (props ⟨init ++ [last], []⟩).source =
        Props.mergeSource (init.map MemberPath.source) last.source ∧
      expr line ⟨init ++ [last], []⟩ = mergeExpr line init (last.expr line) := by
  constructor
  · simp [props, Props.source]
  · simp [expr]

theorem entryLevels_pos (entries : List (Text × EntryValue)) : 1 ≤ entryLevels entries := by
  unfold entryLevels
  split
  · exact Nat.le_refl 1
  · split <;> omega

theorem levels_le (p : PathProps) : p.levels ≤ p.spreads.length + 4 := by
  unfold levels entryLevels
  split
  · omega
  · split <;> omega

/-- **Props take so many levels**, if there are not too many entries. -/
theorem takes (p : PathProps) (h : p.entries.length ≤ 1000) (line : Nat) :
    Takes line p.levels p.props.source (p.expr line) := by
  obtain ⟨spreads, entries⟩ := p
  cases entries with
  | nil =>
    rcases List.eq_nil_or_concat spreads with rfl | ⟨init, last, rfl⟩
    · exact takes_entries line h
    · obtain ⟨hsource, hexpr⟩ := source_concat init last line
      have hlast : Takes line 1 last.source (last.expr line) := EntryValue.takes (.path last) line
      have hlevels : levels ⟨init ++ [last], []⟩ = 1 + init.length := by
        simp only [levels, List.isEmpty_nil, if_true, List.length_append, List.length_cons,
          List.length_nil]
        omega
      rw [List.concat_eq_append] at *
      rw [hsource, hexpr, hlevels]
      exact takes_merge (Nat.le_refl 1) hlast init
  | cons first entries =>
    have hall := takes_merge (entryLevels_pos _) (takes_entries line h) spreads
    rw [Nat.add_comm] at hall
    exact hall

/-! ## Too many entries -/

theorem refused_entries {entries : List (Text × EntryValue)} (h : 1000 < entries.length)
    (line n : Nat) : Refused line n (Props.dictSource (entries.map fun e => (e.1, e.2.source))) := by
  obtain ⟨hsource, -⟩ := call_arguments line entries
  have hlen : 2000 < (arguments line entries).length := by
    rw [length_arguments]
    omega
  have hcall : ∀ n, Refused line (n + 1)
      (Props.call Props.dictName ((arguments line entries).map Prod.fst)) := by
    intro n
    refine Refused.call (by decide) (by decide) (by decide) (fun arg harg => ?_) (Or.inl hlen)
    obtain ⟨e, -, htakes | htakes⟩ := takes_arguments harg
    · exact htakes.code_or_refused n
    · exact htakes.code_or_refused n
  rw [← hsource]
  exact .of_succ hcall n

theorem refused_merge {w : Text} (h : ∀ n, Refused line n w) (spreads : List MemberPath) (n : Nat) :
    Refused line n (Props.mergeSource (spreads.map MemberPath.source) w) := by
  induction spreads generalizing n with
  | nil => exact h n
  | cons s spreads ih =>
    have hspread : Takes line 1 s.source (s.expr line) := EntryValue.takes (.path s) line
    have hcall : ∀ n, Refused line (n + 1)
        (Props.mergeSource ((s :: spreads).map MemberPath.source) w) := by
      intro n
      let args := [(s.source, s.expr line),
        (Props.mergeSource (spreads.map MemberPath.source) w, s.expr line)]
      have hargs : ∀ arg ∈ args, Code line n arg.1 arg.2 ∨ Refused line n arg.1 := by
        simp only [args, List.forall_mem_cons]
        exact ⟨hspread.code_or_refused n, Or.inr (ih n), by simp⟩
      have hrefused := Refused.call (f := Props.mergeName) (by decide) (by decide) (by decide) hargs
        (Or.inr ⟨_, List.mem_cons_of_mem _ List.mem_cons_self, ih n⟩)
      exact hrefused
    exact .of_succ hcall n

/-- Props with too many entries are refused. -/
theorem refused (p : PathProps) (h : 1000 < p.entries.length) (line n : Nat) :
    Refused line n p.props.source := by
  obtain ⟨spreads, entries⟩ := p
  cases entries with
  | nil => exact absurd h (by simp)
  | cons first entries => exact refused_merge (fun n => refused_entries h line n) spreads n

/-- **Props are read back if and only if there are at most a thousand entries, on no more
levels than the parser has.** -/
theorem parse_source (p : PathProps) :
    (p.entries.length ≤ 1000 ∧ p.levels < nestingLimit →
        parse (expressionBlock p.props.source) = .ok [.emit (p.expr 1)]) ∧
      (¬ (p.entries.length ≤ 1000 ∧ p.levels < nestingLimit) →
        ∃ fault, parse (expressionBlock p.props.source) = .error fault) := by
  constructor
  · rintro ⟨hcount, hlevels⟩
    exact parse_expressionBlock ((p.takes hcount 1).code 149 (Nat.le_of_lt_succ hlevels))
  · intro h
    by_cases hcount : p.entries.length ≤ 1000
    · have hlevels : 149 < p.levels := Nat.lt_of_not_le fun hle => h ⟨hcount, Nat.lt_succ_of_le hle⟩
      exact ((p.takes hcount 1).refused 149 hlevels).parse
    · exact (p.refused (Nat.lt_of_not_le hcount) 1 149).parse

end PathProps

/-! ## Merged maps -/

namespace Template.Value

/-- A value that may be merged: a map, or one that is missing. -/
def IsMergeable (v : Value) : Prop := v.kind = .map ∨ v.isMissing = true

/-- A value is the map that holds under each name what `f` gives for it, and nothing
else. -/
def IsMapOf (v : Value) (f : Text → Option Value) : Prop :=
  ∃ entries, v = .map (named entries) ∧ InOrder entries ∧ ∀ x, first? x entries = f x

theorem IsMapOf.congr {v : Value} {f g : Text → Option Value} (h : v.IsMapOf f)
    (hfg : ∀ x, f x = g x) : v.IsMapOf g := by
  obtain ⟨entries, hv, horder, hentries⟩ := h
  exact ⟨entries, hv, horder, fun x => (hentries x).trans (hfg x)⟩

theorem IsMapOf.member? {v : Value} {f : Text → Option Value} (h : v.IsMapOf f) (x : Text) :
    v.member? x = f x := by
  obtain ⟨entries, rfl, -, hentries⟩ := h
  exact (lookup_named x entries).trans (hentries x)

theorem isMapOf_ofNamed (entries : List (Text × Value)) :
    (ofNamed entries).IsMapOf fun x => last? x entries :=
  ⟨sorted entries, ofNamed_eq entries, inOrder_sorted entries, fun x => first?_sorted x entries⟩

theorem isMergeable_ofNamed (entries : List (Text × Value)) : (ofNamed entries).IsMergeable := by
  rw [ofNamed_eq]
  exact Or.inl rfl

theorem last?_keyed_ofNamed (x : Text) (entries : List (Text × Value)) :
    last? x (ofNamed entries).keyed = last? x entries := by
  rw [keyed_ofNamed, last?_sorted]

theorem eq_of_isMissing {v : Value} (h : v.isMissing = true) : v = .undefined ∨ v = .none := by
  cases v with
  | undefined => exact Or.inl rfl
  | none => exact Or.inr rfl
  | _ => cases h

theorem IsMergeable.mergeEntries {v : Value} (h : v.IsMergeable) :
    Function.mergeEntries v = .ok v.keyed := by
  rcases h with hmap | hmissing
  · exact mergeEntries_eq hmap
  · rcases eq_of_isMissing hmissing with rfl | rfl
    · rfl
    · rfl

end Template.Value

namespace Template

variable {h : Host} {scope : Scope} {mem : Memory}

theorem gives_merge (hf : scope.lookup? h.data Props.mergeName = some (.function .merge)) {a b : Expr}
    {v w : Value} (ha : (a.eval h scope).GivesIn mem v) (hb : (b.eval h scope).GivesIn mem w)
    (hv : v.IsMergeable) (hw : w.IsMergeable) (line : Nat) :
    ((Expr.call (.var Props.mergeName line) [(.positional, a), (.positional, b)]).eval
      h scope).GivesIn mem (.ofNamed (v.keyed ++ w.keyed)) := by
  have hargs : ∀ arg ∈ [(a, v), (b, w)], (arg.1.eval h scope).GivesIn mem arg.2 := by
    simp only [List.forall_mem_cons]
    exact ⟨ha, hb, by simp⟩
  have hlast : Function.mergeAll [w] = .ok w.keyed := by
    rw [Function.mergeAll, Function.mergeAll, hw.mergeEntries]
    exact congrArg Except.ok (List.append_nil _)
  have hmerge : Function.makeMerge [v, w] = .ok (.ofNamed (v.keyed ++ w.keyed)) := by
    rw [Function.makeMerge, Function.mergeAll, hlast, hv.mergeEntries]
    rfl
  have hcall : (Function.merge.call h scope (.ofValues [v, w])).GivesIn mem
      (.ofNamed (v.keyed ++ w.keyed)) := by
    rw [Function.call, Arguments.ofValues, hmerge]
    exact .pure _
  exact gives_call (by decide) (by decide) hf hargs hcall line

end Template

namespace PathProps

open Template.Value

variable {h : Host} {scope : Scope} {mem : Memory} {values : MemberPath → Value}

/-- What spreads hold under a name: the last one that has it counts. -/
def spread? (values : MemberPath → Value) (spreads : List MemberPath) (x : Text) : Option Value :=
  spreads.reverse.findSome? fun s => last? x (values s).keyed

/-- What props hold under a name: the last entry counts, or else the last spread that has
the name. -/
def value? (values : MemberPath → Value) (p : PathProps) (x : Text) : Option Value :=
  (last? x (p.entries.map fun e => (e.1, e.2.value values))).or (spread? values p.spreads x)

/-- Whether a value is what props stand for: the value of the spread if there is one spread
and no entry, else the map of what they hold. -/
def IsResult (values : MemberPath → Value) (p : PathProps) (v : Value) : Prop :=
  match p with
  | ⟨[s], []⟩ => v = values s
  | p => v.IsMapOf (p.value? values)

/-- Spreads merged from left to right, with a value behind them. -/
def mergeValue (values : MemberPath → Value) (spreads : List MemberPath) (last : Value) : Value :=
  spreads.foldr (fun s merged => .ofNamed ((values s).keyed ++ merged.keyed)) last

theorem spread?_cons (s : MemberPath) (spreads : List MemberPath) (x : Text) :
    spread? values (s :: spreads) x =
      (spread? values spreads x).or (last? x (values s).keyed) := by
  simp [spread?, List.findSome?_append]

theorem isMergeable_mergeValue {last : Value} (h : last.IsMergeable) (spreads : List MemberPath) :
    (mergeValue values spreads last).IsMergeable := by
  cases spreads with
  | nil => exact h
  | cons s spreads => exact isMergeable_ofNamed _

theorem last?_mergeValue (last : Value) (spreads : List MemberPath) (x : Text) :
    last? x (mergeValue values spreads last).keyed =
      (last? x last.keyed).or (spread? values spreads x) := by
  induction spreads with
  | nil => exact (Option.or_none).symm
  | cons s spreads ih =>
    have hcons : mergeValue values (s :: spreads) last =
      .ofNamed ((values s).keyed ++ (mergeValue values spreads last).keyed) := rfl
    rw [hcons, last?_keyed_ofNamed, last?_append, ih, spread?_cons, Option.or_assoc]

/-- Merged spreads are the map of what they hold. -/
theorem isMapOf_mergeValue (last : Value) (s : MemberPath) (spreads : List MemberPath) :
    (mergeValue values (s :: spreads) last).IsMapOf fun x =>
      (last? x last.keyed).or (spread? values (s :: spreads) x) := by
  have hmap := isMapOf_ofNamed ((values s).keyed ++ (mergeValue values spreads last).keyed)
  refine hmap.congr fun x => ?_
  rw [last?_append, last?_mergeValue, spread?_cons, Option.or_assoc]

theorem gives_mergeExpr (hmerge : scope.lookup? h.data Props.mergeName = some (.function .merge))
    {spreads : List MemberPath}
    (hspreads : ∀ s ∈ spreads, s.value h.data scope mem = .ok (values s) ∧ (values s).IsMergeable)
    {e : Expr} {last : Value} (he : (e.eval h scope).GivesIn mem last) (hlast : last.IsMergeable)
    (line : Nat) :
    ((mergeExpr line spreads e).eval h scope).GivesIn mem (mergeValue values spreads last) := by
  induction spreads with
  | nil => exact he
  | cons s spreads ih =>
    rw [List.forall_mem_cons] at hspreads
    exact gives_merge hmerge (s.gives hspreads.1.1 line) (ih hspreads.2) hspreads.1.2
      (isMergeable_mergeValue hlast spreads) line

theorem gives_entriesExpr (hdict : scope.lookup? h.data Props.dictName = some (.function .dict))
    {entries : List (Text × EntryValue)} (hgiven : ∀ e ∈ entries, e.2.IsGiven values h.data scope mem) (line : Nat) :
    ((entriesExpr line entries).eval h scope).GivesIn mem
      (.ofNamed (entries.map fun e => (e.1, e.2.value values))) := by
  have hentries : ∀ e ∈ entries.map fun e => (e.1, e.2.expr line, e.2.value values),
      (e.2.1.eval h scope).GivesIn mem e.2.2 := by
    intro e he
    obtain ⟨e, hmem, rfl⟩ := List.mem_map.1 he
    exact EntryValue.gives (hgiven e hmem) line
  have hgives := gives_dict hdict hentries line
  simpa [entriesExpr, Function.comp_def] using hgives

theorem isResult_of_isMapOf {p : PathProps} (h : ∀ s, p ≠ ⟨[s], []⟩) {v : Value}
    (hv : v.IsMapOf (p.value? values)) : p.IsResult values v := by
  unfold IsResult
  split
  · exact absurd rfl (h _)
  · exact hv

theorem spread?_concat (init : List MemberPath) (last : MemberPath) (x : Text) :
    spread? values (init ++ [last]) x =
      (last? x (values last).keyed).or (spread? values init x) := by
  simp only [spread?, List.reverse_append, List.reverse_singleton, List.singleton_append,
    List.findSome?_cons]
  cases last? x (values last).keyed <;> rfl

/-- **Props evaluate to what they stand for.** -/
theorem gives_expr (hdict : scope.lookup? h.data Props.dictName = some (.function .dict))
    (hmerge : scope.lookup? h.data Props.mergeName = some (.function .merge)) {p : PathProps}
    (hspreads : ∀ s ∈ p.spreads, s.value h.data scope mem = .ok (values s) ∧ (values s).IsMergeable)
    (hentries : ∀ e ∈ p.entries, e.2.IsGiven values h.data scope mem) (line : Nat) :
    ∃ v, ((p.expr line).eval h scope).GivesIn mem v ∧ p.IsResult values v := by
  obtain ⟨spreads, entries⟩ := p
  cases entries with
  | nil =>
    rcases List.eq_nil_or_concat spreads with rfl | ⟨init, last, rfl⟩
    · exact ⟨_, gives_entriesExpr hdict hentries line, isMapOf_ofNamed []⟩
    · rw [List.concat_eq_append] at *
      obtain ⟨-, hexpr⟩ := source_concat init last line
      have hlast := hspreads last (by simp)
      have hinit : ∀ s ∈ init, s.value h.data scope mem = .ok (values s) ∧ (values s).IsMergeable :=
        fun s hs => hspreads s (by simp [hs])
      have hpath : ((last.expr line).eval h scope).GivesIn mem (values last) :=
        last.gives hlast.1 line
      have hgives := gives_mergeExpr hmerge hinit hpath hlast.2 line
      refine ⟨_, hexpr ▸ hgives, ?_⟩
      cases init with
      | nil => rfl
      | cons s init =>
        refine isResult_of_isMapOf (by simp) ?_
        refine (isMapOf_mergeValue (values last) s init).congr fun x => ?_
        exact (spread?_concat (s :: init) last x).symm
  | cons first entries =>
    have hdictionary : ((entriesExpr line (first :: entries)).eval h scope).GivesIn mem _ :=
      gives_entriesExpr hdict hentries line
    have hgives := gives_mergeExpr hmerge hspreads hdictionary (isMergeable_ofNamed _) line
    refine ⟨_, hgives, ?_⟩
    refine isResult_of_isMapOf (by simp) ?_
    cases spreads with
    | nil => exact (isMapOf_ofNamed _).congr fun x => (Option.or_none).symm
    | cons s spreads =>
      refine (isMapOf_mergeValue _ s spreads).congr fun x => ?_
      rw [last?_keyed_ofNamed]
      rfl

end PathProps

/-! ## Attributes -/

/-- The value of an attribute that is a text without holes, nothing, or a path in
braces. -/
inductive PlainValue where
  | text (v : Text) (isPlain : ¬ ['{', '{'] <:+: v)
  | flag
  | braced (source : Text) (p : MemberPath) (trim_source : Text.trim source = p.source)

/-- An attribute that is the spread of a path, or a key with such a value. -/
inductive PlainAttribute where
  | spread (p : MemberPath)
  | entry (key : Text) (value : PlainValue)

namespace PlainValue

def attributeValue : PlainValue → AttributeValue
  | text v _ => .text v
  | flag => .flag
  | braced source _ _ => .expression source

/-- What stands as the value of the entry. -/
def entryValue : PlainValue → EntryValue
  | text v _ => .text v
  | flag => .flag
  | braced _ p _ => .group p

theorem source_attributeValue (v : PlainValue) : v.attributeValue.source = v.entryValue.source := by
  cases v with
  | text v isPlain => exact AttributeValue.textSource_plain isPlain
  | flag => rfl
  | braced source p trim_source =>
    rw [attributeValue, AttributeValue.source, trim_source]
    rfl

end PlainValue

namespace PlainAttribute

def toAttribute : PlainAttribute → Attribute
  | spread p => .spread p.source
  | entry key value => .literal key value.attributeValue

/-- The path of a spread. -/
def spread? : PlainAttribute → Option MemberPath
  | spread p => some p
  | entry _ _ => none

/-- The entry of a key. -/
def entry? : PlainAttribute → Option (Text × EntryValue)
  | spread _ => none
  | entry key value => some (key, value.entryValue)

end PlainAttribute

namespace PathProps

/-- The props of attributes, with entries behind them. -/
def ofAttributes (attributes : List PlainAttribute) (more : List (Text × MemberPath)) :
    PathProps where
  spreads := attributes.filterMap PlainAttribute.spread?
  entries := attributes.filterMap PlainAttribute.entry? ++ more.map fun e => (e.1, .path e.2)

theorem props_ofAttributes (attributes : List PlainAttribute) (more : List (Text × MemberPath)) :
    (Props.ofAttributes (attributes.map PlainAttribute.toAttribute)).withEntries
        (more.map fun e => (e.1, e.2.source)) = (ofAttributes attributes more).props := by
  have hspreads : (Props.ofAttributes (attributes.map PlainAttribute.toAttribute)).spreads =
      (attributes.filterMap PlainAttribute.spread?).map MemberPath.source := by
    simp only [Props.ofAttributes, List.filterMap_map, List.map_filterMap]
    refine congrArg (attributes.filterMap ·) (funext fun a => ?_)
    cases a <;> rfl
  have hentries : (Props.ofAttributes (attributes.map PlainAttribute.toAttribute)).entries =
      (attributes.filterMap PlainAttribute.entry?).map fun e => (e.1, e.2.source) := by
    simp only [Props.ofAttributes, List.filterMap_map, List.map_filterMap]
    refine congrArg (attributes.filterMap ·) (funext fun a => ?_)
    cases a with
    | spread p => rfl
    | entry key value => exact congrArg (fun w => some (key, w)) value.source_attributeValue
  rw [Props.withEntries, hspreads, hentries, props, ofAttributes, List.map_append, List.map_map]
  rfl

/-- **The props of attributes evaluate to what they stand for.**  Their source is read by
the template parser if there are at most a thousand entries, on no more levels than the
parser has, and else the parser refuses it. -/
theorem parse_ofText_isResult {s : Text} {attributes : List PlainAttribute}
    (hs : Attribute.parse s = attributes.map PlainAttribute.toAttribute)
    (more : List (Text × MemberPath)) :
    let p := ofAttributes attributes more
    let block := expressionBlock
      ((Props.ofText s).withEntries (more.map fun e => (e.1, e.2.source))).source
    (p.entries.length ≤ 1000 ∧ p.levels < nestingLimit →
      ∃ e, parse block = .ok [.emit e] ∧
        ∀ (h : Host) (scope : Scope) (mem : Memory) (values : MemberPath → Value),
          scope.lookup? h.data Props.dictName = some (.function .dict) →
          scope.lookup? h.data Props.mergeName = some (.function .merge) →
          (∀ q ∈ p.spreads, q.value h.data scope mem = .ok (values q) ∧ (values q).IsMergeable) →
          (∀ e ∈ p.entries, e.2.IsGiven values h.data scope mem) →
          ∃ v, (e.eval h scope).GivesIn mem v ∧ p.IsResult values v) ∧
    (¬ (p.entries.length ≤ 1000 ∧ p.levels < nestingLimit) →
      ∃ fault, parse block = .error fault) := by
  intro p block
  have hblock : block = expressionBlock p.props.source := by
    rw [← props_ofAttributes, ← hs]
    rfl
  obtain ⟨hread, hrefused⟩ := p.parse_source
  rw [hblock]
  refine ⟨fun h => ⟨_, hread h, ?_⟩, hrefused⟩
  intro h scope mem values hdict hmerge hspreads hentries
  exact gives_expr hdict hmerge hspreads hentries 1

/-- The variable `base`. -/
def base : MemberPath where
  root := "base".toList
  members := []
  isIdentifier_root := by decide
  constant?_root := by decide
  root_ne_not := by decide
  isIdentifier_members := by simp

/-- The member `k` of the variable `base`. -/
def baseKey : MemberPath := { base with members := [['k']], isIdentifier_members := by decide }

/-- A spread between two entries of one key. -/
def spreadBetween : List PlainAttribute :=
  [.entry ['k'] (.text ['x'] (by decide)), .spread base,
    .entry ['k'] (.braced " base.k ".toList baseKey (by decide))]

/-- Data in which the variable holds a map. -/
def baseData : Value :=
  .ofNamed [("base".toList, .ofNamed [(['k'], .ofText ['b']), (['n'], .ofText ['c'])])]

/-- The values that paths have with data, where nothing has been set. -/
def valuesOf (data : Value) (p : MemberPath) : Value :=
  (p.value data (.start [] []) (.ofEvents [])).toOption.getD .undefined

/-- The last entry of the key counts, wherever the spread stands, and the spread has another
key. -/
theorem parse_ofText_spreadBetween :
    Attribute.parse " k=\"x\" {...base} k={ base.k }".toList =
        spreadBetween.map PlainAttribute.toAttribute ∧
      ((ofAttributes spreadBetween [(['m'], base)]).entries.length ≤ 1000 ∧
        (ofAttributes spreadBetween [(['m'], base)]).levels < nestingLimit) ∧
      ∃ e, parse (expressionBlock ((Props.ofText
          " k=\"x\" {...base} k={ base.k }".toList).withEntries
            [(['m'], "base".toList)]).source) = .ok [.emit e] ∧
        ∀ h : Host, h.data = baseData → ∃ v, (e.eval h (.start [] [])).Gives v ∧
          v.member? ['k'] = some (.ofText ['b']) ∧ v.member? ['n'] = some (.ofText ['c']) ∧
          v.member? ['z'] = none := by
  have hs : Attribute.parse " k=\"x\" {...base} k={ base.k }".toList =
      spreadBetween.map PlainAttribute.toAttribute := by
    let written : List WrittenAttribute := [.quoted ['k'] '"' ['x'], .spread "base".toList,
      .braced ['k'] " base.k ".toList]
    have hsource : WrittenAttribute.sources written = " k=\"x\" {...base} k={ base.k }".toList := by
      decide
    have hread : Attribute.parse (WrittenAttribute.sources written) =
        written.map WrittenAttribute.meaning :=
      Attribute.parse_writtenAttributes (by decide) (by decide +kernel)
    rw [hsource] at hread
    exact hread
  have hlevels : (ofAttributes spreadBetween [(['m'], base)]).entries.length ≤ 1000 ∧
      (ofAttributes spreadBetween [(['m'], base)]).levels < nestingLimit := by decide
  obtain ⟨e, hparse, hgives⟩ := (parse_ofText_isResult hs [(['m'], base)]).1 hlevels
  refine ⟨hs, hlevels, e, hparse, fun h hdata => ?_⟩
  have hspreads : ∀ q ∈ (ofAttributes spreadBetween [(['m'], base)]).spreads,
      q.value h.data (.start [] []) (.ofEvents []) = .ok (valuesOf baseData q) ∧
        (valuesOf baseData q).IsMergeable := by
    intro q hq
    rw [List.mem_singleton.1 hq, hdata]
    exact ⟨rfl, Or.inl rfl⟩
  have hentries : ∀ e ∈ (ofAttributes spreadBetween [(['m'], base)]).entries,
      e.2.IsGiven (valuesOf baseData) h.data (.start [] []) (.ofEvents []) := by
    intro e he
    rw [hdata]
    rcases List.mem_cons.1 he with rfl | he
    · trivial
    · rcases List.mem_cons.1 he with rfl | he
      · exact rfl
      · rw [List.mem_singleton.1 he]
        exact rfl
  obtain ⟨v, hv, hresult⟩ := hgives h _ _ (valuesOf baseData) (by rw [hdata]; rfl)
    (by rw [hdata]; rfl) hspreads hentries
  have hmap : v.IsMapOf ((ofAttributes spreadBetween [(['m'], base)]).value? (valuesOf baseData)) :=
    hresult
  exact ⟨v, hv, hmap.member? _, hmap.member? _, hmap.member? _⟩

/-- So many flags of one key. -/
def flags (n : Nat) : List PlainAttribute := List.replicate n (.entry ['k'] .flag)

/-- The flags as they are written. -/
def flagsSource (n : Nat) : Text := WrittenAttribute.sources (List.replicate n (.flag ['k']))

theorem parse_flagsSource (n : Nat) :
    Attribute.parse (flagsSource n) = (flags n).map PlainAttribute.toAttribute := by
  have hkey : WrittenAttribute.isWellFormed (.flag ['k']) = true := by decide
  have hread : Attribute.parse (WrittenAttribute.sources (List.replicate n (.flag ['k']))) =
      (List.replicate n (.flag ['k'])).map WrittenAttribute.meaning :=
    Attribute.parse_writtenAttributes
      (List.all_eq_true.2 fun a ha => List.eq_of_mem_replicate ha ▸ hkey)
      (List.all_eq_true.2 fun a ha => List.eq_of_mem_replicate ha ▸ rfl)
  rw [flagsSource, hread, flags, List.map_replicate, List.map_replicate]
  rfl

theorem ofAttributes_flags (n : Nat) :
    ofAttributes (flags n) [] = ⟨[], List.replicate n (['k'], .flag)⟩ := by
  have hentry : PlainAttribute.entry? (.entry ['k'] .flag) = some (['k'], .flag) := rfl
  have hspread : PlainAttribute.spread? (.entry ['k'] .flag) = none := rfl
  simp only [ofAttributes, flags, List.map_nil, List.append_nil,
    List.filterMap_replicate_of_none hspread, List.filterMap_replicate_of_some hentry]

/-- **A tag with a thousand and one flags** nests on few levels, but its props do not
parse. -/
theorem parse_ofText_flags :
    Attribute.parse (flagsSource 1001) = (flags 1001).map PlainAttribute.toAttribute ∧
      (ofAttributes (flags 1001) []).levels < nestingLimit ∧
      ∃ fault, parse (expressionBlock
        ((Props.ofText (flagsSource 1001)).withEntries []).source) = .error fault := by
  have hprops := ofAttributes_flags 1001
  have hcount : (ofAttributes (flags 1001) []).entries.length = 1001 := by
    rw [congrArg entries hprops, List.length_replicate]
  have hlevels : (ofAttributes (flags 1001) []).levels ≤ 4 := by
    have hle := levels_le (ofAttributes (flags 1001) [])
    rwa [congrArg spreads hprops] at hle
  refine ⟨parse_flagsSource 1001, Nat.lt_of_le_of_lt hlevels (by decide), ?_⟩
  obtain ⟨fault, hfault⟩ := (ofAttributes (flags 1001) []).parse_source.2 (by omega)
  rw [← props_ofAttributes, ← parse_flagsSource] at hfault
  exact ⟨fault, hfault⟩

end PathProps

end Componentry
