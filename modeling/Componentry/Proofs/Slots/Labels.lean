import Componentry.Proofs.Capitals
import Componentry.Proofs.Slots.Placeholders
import Componentry.Proofs.Slots.Shadowing

/-! # Labels that can be installed

A slot's label is its name with the first character in upper case, and that is done but once
(`slotLabel_slotLabel`).  Only sources whose label is named like a component are installed.
A name gives such a label if its first character is upper-case or has an upper-case form of
its own; a digit, a letter of a script without case and `ŉ` do not
(`isComponentName_slotLabel`).  The content that such a slot is given is not found by its
placeholder, which writes nothing (`Namespace.render_slotName`).
-/
namespace Componentry

open Template Run

namespace Text

/-- Whether capitalising makes an upper-case character of this one. -/
def isCapitalizable (c : Char) : Bool := isUpper c || (upperCase c ≠ [c] && c ≠ 'ŉ')

theorem exists_upperCase (c : Char) :
    ∃ d more, upperCase c = d :: more ∧ upperCase d = [d] ∧ isUpper d = isCapitalizable c := by
  by_cases hc : c = 'ŉ'
  · subst hc
    exact ⟨'ʼ', ['N'], by decide +kernel⟩
  · rcases upperCase_cases c with hsame | ⟨d, more, hform, hupper⟩ | hexception
    · exact ⟨c, [], hsame, hsame, by simp [isCapitalizable, hsame]⟩
    · refine ⟨d, more, hform, upperCase_of_isUpper hupper, ?_⟩
      by_cases hsame : upperCase c = [c]
      · obtain ⟨rfl, -⟩ := List.cons.inj (hsame.symm.trans hform)
        simp [isCapitalizable, hupper]
      · simp [isCapitalizable, hupper, hsame, hc]
    · exact absurd hexception hc

end Text

/-! ## Labels -/

/-- The label of a name that is not blank. -/
theorem slotLabel_of_trim {name : Text} {c : Char} {rest : Text}
    (h : Text.trim name = c :: rest) : slotLabel name = Text.upperCase c ++ rest := by
  rw [slotLabel, h]

/-- There are no spaces at the ends of a label. -/
theorem trim_slotLabel (name : Text) : Text.trim (slotLabel name) = slotLabel name := by
  obtain ⟨hhead, hlast⟩ := Text.trim_ends name
  cases h : Text.trim name with
  | nil =>
    rw [slotLabel, h]
    decide
  | cons c rest =>
    rw [h] at hhead hlast
    have hform := Text.isSpace_upperCase (hhead c rfl)
    obtain ⟨d, more, hd, -⟩ := Text.exists_upperCase c
    rw [slotLabel_of_trim h]
    refine Text.trim_of_ends (fun e he => ?_) (fun e he => ?_)
    · rw [hd, List.cons_append, List.head?_cons, Option.mem_some_iff] at he
      exact hform e (by simp [hd, he])
    · rw [List.getLast?_append] at he
      cases rest with
      | nil => exact hform e (List.mem_of_getLast? he)
      | cons r rest =>
        refine hlast e ?_
        rw [List.getLast?_eq_some_getLast (List.cons_ne_nil r rest), Option.some_or] at he
        rwa [List.getLast?_cons_cons, List.getLast?_eq_some_getLast (List.cons_ne_nil r rest)]

/-- **A label is its own label.** -/
theorem slotLabel_slotLabel (name : Text) : slotLabel (slotLabel name) = slotLabel name := by
  cases h : Text.trim name with
  | nil =>
    rw [slotLabel, slotLabel, h]
    decide
  | cons c rest =>
    obtain ⟨d, more, hd, hown, -⟩ := Text.exists_upperCase c
    have hlabel : slotLabel name = d :: (more ++ rest) := by
      rw [slotLabel_of_trim h, hd, List.cons_append]
    have htrim := trim_slotLabel name
    rw [hlabel] at htrim ⊢
    rw [slotLabel_of_trim htrim, hown, List.singleton_append]

/-- **Which labels are named like components.** -/
theorem isComponentName_slotLabel (name : Text) :
    isComponentName (slotLabel name) = (Text.trim name).head?.all Text.isCapitalizable := by
  cases h : Text.trim name with
  | nil =>
    rw [slotLabel, h]
    decide
  | cons c rest =>
    obtain ⟨d, more, hd, -, hupper⟩ := Text.exists_upperCase c
    rw [slotLabel_of_trim h, hd]
    exact hupper

/-- The label of a slot element is that of a marker of the same name. -/
theorem Element.getD_slotLabel? {e : Element} {name : Text}
    (h : Attribute.static? (Attribute.parse e.attributes) ['n', 'a', 'm', 'e'] = some name) :
    e.slotLabel?.getD defaultLabel = markerLabel (some name) := by
  rw [Element.slotLabel?, h, markerLabel]
  by_cases hdefault : slotLabel name = defaultLabel
  · simp [hdefault]
  · have hname : (Text.trim name).isEmpty = false := by
      cases htrim : Text.trim name with
      | nil => exact absurd (by rw [slotLabel, htrim]) hdefault
      | cons c rest => rfl
    simp [hname, hdefault]

/-! ## Content under a label -/

namespace Namespace

/-- Under a label that is not named like a component no source is run. -/
theorem invokedBody?_of_not_isComponentName (ns : Namespace) {label : Text}
    (hlabel : isComponentName label = false) (props : Value) :
    ns.invokedBody? label props = ns.body? label := by
  refine ns.invokedBody?_eq_body? fun s hs heq => ?_
  have hs := Value.isComponentName_of_mem_allSlotSources hs
  rw [heq, hlabel] at hs
  cases hs

/-- The placeholder of such a label writes nothing, unless a definition is called like it. -/
theorem gives_placeholder_uninstalled (ns : Namespace) (levels : Nat) {label : Text}
    (hlabel : isComponentName label = false) (hfree : ns.body? label = none)
    (hne : label ≠ invokeName) (unit : Text) (caller : Value) {others : List (Text × Value)}
    (hinvoke : ∀ e ∈ others, e.1 ≠ invokeName) (library : Library) (name : Text) :
    (Template.render library ((Base.finished ns).invoke levels) name
      [.emit (.ifElse (isGivenExpr label 1) (invokeExpr label Attribute.contextVar 1) none)]
      (Value.ofNamed (slotProps others label unit caller)).scope).Gives [] := by
  obtain ⟨given, hgiven⟩ : ∃ given, Value.last? label (slotProps others label unit caller) =
      some given := by
    rw [last?_slotProps, if_pos rfl]
    split <;> exact ⟨_, rfl⟩
  cases hdefined : given.isUndefined with
  | true =>
    -- The variable for the caller is a label as well, and the caller may be undefined.
    exact gives_render_placeholder_none (by rw [hgiven]; exact hdefined)
  | false =>
    have hcontained : (Function.contained label ((Base.finished ns).invoke levels label
        (.ofNamed (slotProps others label unit caller)))).Gives (.ofMarkup []) := by
      cases levels with
      | zero => exact .contained_fail label _
      | succ levels =>
        refine gives_contained_partialRun_none ?_ _
        rw [ns.invokedBody?_of_not_isComponentName hlabel, hfree]
    exact gives_render_placeholder (lookup?_invoke_of_ne unit caller hne hinvoke name []) hgiven
      hdefined hcontained

/-- **What becomes of the content of a slot, whatever its name.**  The element and the marker
have one label for the name, and labels are fixed.  The label is named like a component if the
name starts with a character that can be capitalised; then its placeholder runs the slot's
definition.  Otherwise the placeholder writes nothing, and the content is lost. -/
theorem render_slotName (ns : Namespace) (name : Text) :
    slotLabel (slotLabel name) = slotLabel name ∧
      isComponentName (slotLabel name) =
        (Text.trim name).head?.all Text.isCapitalizable ∧
      (∀ e : Element,
        Attribute.static? (Attribute.parse e.attributes) ['n', 'a', 'm', 'e'] = some name →
          e.slotLabel?.getD defaultLabel = markerLabel (some name)) ∧
      ∀ (k : Nat) (unit : Text) (caller : Value) (others : List (Text × Value)),
        (∀ e ∈ others, e.1 ≠ invokeName) → (∀ e ∈ others, e.1 ≠ slotsVar) →
        (isComponentName (slotLabel name) = false → ns.body? (slotLabel name) = none) →
        ∃ body, parse (placeholder (markerLabel (some name))) = .ok body ∧
          ∀ (library : Library) (component : Text),
            (Template.render library ((Base.finished ns).invoke (invocationLimit - k)) component
              body (Value.ofNamed (slotProps others (slotLabel name) unit caller)).scope).Gives
                (if (Text.trim name).head?.all Text.isCapitalizable = true then
                  ((Base.finished ns).invoke (invocationLimit - (k + 1)) unit caller.asProps).text
                else []) := by
  refine ⟨slotLabel_slotLabel name, isComponentName_slotLabel name,
    fun _ => Element.getD_slotLabel?, fun k unit caller others hinvoke hslots hfree => ?_⟩
  refine ⟨_, parse_placeholder _, ?_⟩
  rw [← isComponentName_slotLabel]
  cases hlabel : isComponentName (slotLabel name) with
  | true =>
    rw [if_pos rfl]
    exact ns.gives_placeholder_slotProps k hlabel unit caller hinvoke hslots
  | false =>
    rw [if_neg Bool.false_ne_true]
    have hne : slotLabel name ≠ invokeName := by
      intro heq
      have hown := slotLabel_slotLabel name
      rw [heq] at hown
      exact absurd hown (by decide)
    exact ns.gives_placeholder_uninstalled _ hlabel (hfree hlabel) hne unit caller hinvoke

/-- A slot that is found, and one that is not. -/
theorem render_slotName_showing :
    (∀ e ∈ [(['x'], Value.undefined)], e.1 ≠ invokeName) ∧
      (∀ e ∈ [(['x'], Value.undefined)], e.1 ≠ slotsVar) ∧
      (isComponentName (slotLabel ['l']) = false → showing.body? (slotLabel ['l']) = none) ∧
      (isComponentName (slotLabel ['1']) = false → showing.body? (slotLabel ['1']) = none) ∧
      (∃ body, parse (placeholder ['L']) = .ok body ∧
        ∀ (library : Library) (component : Text),
          (Template.render library ((Base.finished showing).invoke (invocationLimit - 0)) component
            body (Value.ofNamed (slotProps [(['x'], .undefined)] ['L'] ['u']
              (.bool true))).scope).Gives ['t', 'r', 'u', 'e']) ∧
      ∃ body, parse (placeholder ['1']) = .ok body ∧
        ∀ (library : Library) (component : Text),
          (Template.render library ((Base.finished showing).invoke (invocationLimit - 0)) component
            body (Value.ofNamed (slotProps [(['x'], .undefined)] ['1'] ['u']
              (.bool true))).scope).Gives [] := by
  have hinvoke : ∀ e ∈ [(['x'], Value.undefined)], e.1 ≠ invokeName := by decide
  have hslots : ∀ e ∈ [(['x'], Value.undefined)], e.1 ≠ slotsVar := by decide
  have hfound : isComponentName (slotLabel ['l']) = false →
      showing.body? (slotLabel ['l']) = none := by decide
  have hlost : isComponentName (slotLabel ['1']) = false →
      showing.body? (slotLabel ['1']) = none := by decide
  have htext : ((Base.finished showing).invoke (invocationLimit - (0 + 1)) ['u']
      (Value.bool true).asProps).text = ['t', 'r', 'u', 'e'] := by
    decide +kernel
  refine ⟨hinvoke, hslots, hfound, hlost, ?_, ?_⟩
  · have hrun := (showing.render_slotName ['l']).2.2.2 0 ['u'] (.bool true) _ hinvoke hslots hfound
    rwa [if_pos (by decide), htext, markerLabel, show slotLabel ['l'] = ['L'] by decide] at hrun
  · have hrun := (showing.render_slotName ['1']).2.2.2 0 ['u'] (.bool true) _ hinvoke hslots hlost
    rwa [if_neg (by decide), markerLabel, show slotLabel ['1'] = ['1'] by decide] at hrun

end Namespace

/-- A component that places a slot between brackets, and a page that gives it content. -/
def Compiled.bracketed (slot : Text) : List SourceUnit :=
  [⟨['C'], ['C'], '[' :: slotMarker (some slot) ++ [']']⟩,
    ⟨['p'], ['p'], (slotted ['C'] slot ['t']).source .author⟩]

/-- **There are labels that cannot be installed**: of digits, and of a letter whose form
starts with an apostrophe.  What the slot is given is not on the page. -/
theorem Compiled.rendered_bracketed_ne :
    isComponentName (slotLabel ['1']) = false ∧ isComponentName (slotLabel ['ŉ']) = false ∧
      rendered (bracketed ['l']) ['p'] = some ['[', 't', ']'] ∧
      rendered (bracketed ['1']) ['p'] = some ['[', ']'] ∧
      rendered (bracketed ['ŉ']) ['p'] = some ['[', ']'] := by
  decide +kernel

end Componentry
