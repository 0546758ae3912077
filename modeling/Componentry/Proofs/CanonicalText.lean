import Componentry.Document.Parse
import Componentry.Proofs.Template.Maps

/-! # The canonical text tells documents apart

Two documents are compared by what is written of them (`Node.writeAll`).  This is the text of a
canonical form (`Node.canonical`, `Node.writeAll_eq_printAll`), so documents with the same
canonical form are written alike, as those are whose attributes are given in another order
(`Node.sortAttributes_eq_iff`).  The converse says that a text can be read in one way only:

* An escaped text goes on to the next sign that opens a tag or ends a value
  (`Node.escape_append_inj`), and the name of a tag or an attribute to the next sign that no
  such name holds (`Node.openingTag_inj`).
* The first two characters tell whether a text, an element, a document type or a closing tag
  comes next (`Node.print_start`).  A text comes never behind a text, since those were joined,
  and an element without closing tag has no contents.
* So a node is told by the start of what is written, whatever follows, by recursion on the
  tree (`Node.print_inj`).

Of a document type only the name is written, so documents are told apart up to the
identifiers of their types, and a name that holds the sign that ends a tag is not told from
what the tag and the text behind it would be (`Node.writeAll_eq_of_types_ne`).
-/
namespace Componentry

namespace Text

/-- Two texts that go on behind pieces without a stop character are cut at the same place, if
both go on with one. -/
theorem append_cons_inj {p : Char → Bool} {v w : Text} {c d : Char} {s t : Text}
    (hv : ∀ x ∈ v, p x = false) (hw : ∀ x ∈ w, p x = false) (hc : p c = true) (hd : p d = true)
    (h : v ++ c :: s = w ++ d :: t) : v = w ∧ c = d ∧ s = t := by
  induction v generalizing w with
  | nil =>
    cases w with
    | nil => exact ⟨rfl, List.cons.inj h⟩
    | cons x w =>
      rw [(List.cons.inj h).1, hw x (by simp)] at hc
      cases hc
  | cons x v ih =>
    cases w with
    | nil =>
      rw [← (List.cons.inj h).1, hv x (by simp)] at hd
      cases hd
    | cons y w =>
      rw [List.forall_mem_cons] at hv hw
      obtain ⟨rfl, hrest⟩ := List.cons.inj h
      obtain ⟨rfl, hcd, hst⟩ := ih hv.2 hw.2 hrest
      exact ⟨rfl, hcd, hst⟩

end Text

namespace Node

/-! ## Well-formed names -/

/-- The characters that a name may hold. -/
def isNameChar (c : Char) : Bool := !Text.isBlank c && c != '/' && c != '>'

/-- The names of tags: a letter of ASCII, and behind it anything that does not end a name. -/
def isTagName : Text → Bool
  | [] => false
  | c :: name => Text.isAsciiLetter c && (c :: name).all isNameChar

/-- The names of attributes: at least one character, of which only the first may be an equals
sign. -/
def isAttributeName : Text → Bool
  | [] => false
  | c :: name => (c :: name).all isNameChar && !name.contains '='

/-- Whether a node has the names of tags and attributes. -/
def isNamed : Node → Bool
  | element name attributes _ => isTagName name && attributes.all fun a => isAttributeName a.1
  | _ => true

/-- Whether a node is no document type with the sign in its name that ends a tag. -/
def isTyped : Node → Bool
  | doctype name _ _ => !name.contains '>'
  | _ => true

mutual

/-- Whether a condition holds of a node and of all nodes in it. -/
def everywhere (p : Node → Bool) : Node → Bool
  | element name attributes children =>
    p (element name attributes children) && everywhereAll p children
  | n => p n
termination_by structural n => n

/-- Whether a condition holds of nodes and of all nodes in them. -/
def everywhereAll (p : Node → Bool) : List Node → Bool
  | [] => true
  | n :: more => everywhere p n && everywhereAll p more
termination_by structural ns => ns

end

/-! ## Canonical forms -/

/-- Joins texts that stand side by side. -/
def joinTexts : List Node → List Node
  | [] => []
  | n :: more =>
    match n, joinTexts more with
    | text a, text b :: rest => text (a ++ b) :: rest
    | n, rest => n :: rest

mutual

/-- What is left of a node in the canonical form.  `identified` is whether the identifiers of
document types count. -/
def pruned (identified keepWrappers : Bool) : Node → List Node
  | doctype name publicId systemId =>
    if keepWrappers then
      [if identified then doctype name publicId systemId else doctype name [] []]
    else []
  | element name attributes children =>
    if isWrapper name && !keepWrappers then prunedAll identified keepWrappers children
    else
      [element name (sortAttributes attributes)
        (if isVoid name then [] else joinTexts (prunedAll identified keepWrappers children))]
  | text contents => if Text.collapse contents = [] then [] else [text (Text.collapse contents)]
  | comment _ => []
  | instruction _ _ => []
termination_by structural n => n

/-- What is left of nodes in the canonical form. -/
def prunedAll (identified keepWrappers : Bool) : List Node → List Node
  | [] => []
  | n :: more => pruned identified keepWrappers n ++ prunedAll identified keepWrappers more
termination_by structural ns => ns

end

/-- The canonical form of a document: without comments and processing instructions, with the
attributes sorted, with the white space of each text collapsed and trimmed, without blank texts,
with texts joined that are then side by side, and without the contents of elements that have
none; if wrappers are not kept, without document types and with the contents of the wrappers in
their place. -/
def canonical (identified keepWrappers : Bool) (nodes : List Node) : List Node :=
  joinTexts (prunedAll identified keepWrappers nodes)

theorem joinTexts_cons (n : Node) (ns : List Node) :
    joinTexts (n :: ns) =
      match n, joinTexts ns with
      | text a, text b :: rest => text (a ++ b) :: rest
      | n, rest => n :: rest := rfl

/-! ### The order of attributes -/

/-- The order in which attributes are written. -/
def attributeOrder (a b : Text × Text) : Ordering :=
  (Text.order a.1 b.1).then (Text.order a.2 b.2)

instance : Std.TransCmp attributeOrder := by
  have hname : Std.TransCmp fun a b : Text × Text => Text.order a.1 b.1 :=
    { eq_swap := Std.OrientedCmp.eq_swap, isLE_trans := Std.TransCmp.isLE_trans }
  have hvalue : Std.TransCmp fun a b : Text × Text => Text.order a.2 b.2 :=
    { eq_swap := Std.OrientedCmp.eq_swap, isLE_trans := Std.TransCmp.isLE_trans }
  exact inferInstanceAs (Std.TransCmp (compareLex _ _))

instance : Std.LawfulEqCmp attributeOrder where
  compare_self := Std.ReflCmp.compare_self
  eq_of_compare h := by
    rw [attributeOrder, Ordering.then_eq_eq] at h
    exact Prod.ext (Text.eq_of_order h.1) (Text.eq_of_order h.2)

/-- **The order in which attributes are given is all that sorting forgets.** -/
theorem sortAttributes_eq_iff {as bs : List (Text × Text)} :
    sortAttributes as = sortAttributes bs ↔ as.Perm bs :=
  @mergeSort_eq_iff_perm _ attributeOrder _ _ as bs

/-! ## The text of a canonical form -/

/-- The text of a document type. -/
def typeText (name : Text) : Text := "<!DOCTYPE ".toList ++ name ++ ['>']

theorem typeText_eq (name : Text) : typeText name = "<!DOCTYPE ".toList ++ name ++ ['>'] := rfl

mutual

/-- The text of a node as it is. -/
def print : Node → Text
  | doctype name _ _ => typeText name
  | element name attributes children =>
    '<' :: name ++ attributes.flatMap attributeText ++ ['>'] ++
      (if isVoid name then [] else printAll children ++ closingTag name)
  | text contents => escape contents
  | comment _ => []
  | instruction _ _ => []
termination_by structural n => n

/-- The text of nodes as they are. -/
def printAll : List Node → Text
  | [] => []
  | n :: more => print n ++ printAll more
termination_by structural ns => ns

end

theorem printAll_append (ns ms : List Node) : printAll (ns ++ ms) = printAll ns ++ printAll ms := by
  induction ns with
  | nil => rfl
  | cons n ns ih => rw [List.cons_append, printAll, ih, printAll, List.append_assoc]

theorem escape_append (s t : Text) : escape (s ++ t) = escape s ++ escape t := by
  simp [escape]

/-- Joining texts does not change what is written. -/
theorem printAll_joinTexts (ns : List Node) : printAll (joinTexts ns) = printAll ns := by
  induction ns with
  | nil => rfl
  | cons n ns ih =>
    rw [printAll, ← ih, joinTexts_cons]
    split
    · rename_i a b rest hrest
      rw [hrest, printAll, printAll, print, print, print, escape_append, List.append_assoc]
    · rw [printAll]

mutual

theorem write_eq (identified keepWrappers : Bool) :
    ∀ n : Node, write keepWrappers n = printAll (pruned identified keepWrappers n)
  | doctype name publicId systemId => by
    rw [write, pruned, ← typeText_eq]
    cases keepWrappers with
    | false => rfl
    | true => cases identified <;> simp only [if_true, if_false, Bool.false_eq_true, printAll, print,
        List.append_nil]
  | element name attributes children => by
    rw [write, pruned]
    split
    · exact writeAll_eq identified keepWrappers children
    · rw [printAll, printAll, print, List.append_nil]
      split
      · rw [List.append_nil, openingTag]
      · rw [printAll_joinTexts, writeAll_eq identified keepWrappers children, openingTag,
          List.append_assoc]
  | text contents => by
    rw [write, pruned]
    split
    · rename_i hempty
      rw [hempty]
      rfl
    · rw [printAll, printAll, print, List.append_nil]
  | comment _ => rfl
  | instruction _ _ => rfl

theorem writeAll_eq (identified keepWrappers : Bool) :
    ∀ ns : List Node, writeAll keepWrappers ns = printAll (prunedAll identified keepWrappers ns)
  | [] => rfl
  | n :: ns => by
    rw [writeAll, prunedAll, printAll_append, write_eq identified keepWrappers n,
      writeAll_eq identified keepWrappers ns]

end

/-- **What is written is the text of the canonical form.** -/
theorem writeAll_eq_printAll (identified keepWrappers : Bool) (ns : List Node) :
    writeAll keepWrappers ns = printAll (canonical identified keepWrappers ns) := by
  rw [canonical, printAll_joinTexts, writeAll_eq identified]

/-! ## Escaped text is read back -/

/-- The characters that end an escaped text. -/
def isMarkup (c : Char) : Bool := c = '<' || c = '"'

theorem isMarkup_escape {s : Text} : ∀ c ∈ escape s, isMarkup c = false := by
  intro c hc
  obtain ⟨d, -, hd⟩ := List.mem_flatMap.1 hc
  unfold escapeChar at hd
  split at hd
  all_goals simp_all [isMarkup]
  all_goals rcases hd with rfl | rfl | rfl | rfl | rfl | rfl <;> decide

/-- A character is told by how it is written, whatever follows. -/
theorem escapeChar_append_inj {c d : Char} {s t : Text}
    (h : escapeChar c ++ s = escapeChar d ++ t) : c = d ∧ s = t := by
  unfold escapeChar at h
  split at h <;> split at h <;> simp_all
  all_goals exact absurd h.1.symm ‹_›

theorem escapeChar_ne_nil (c : Char) : escapeChar c ≠ [] := by
  unfold escapeChar
  split <;> simp

theorem escape_injective {s t : Text} (h : escape s = escape t) : s = t := by
  induction s generalizing t with
  | nil =>
    cases t with
    | nil => rfl
    | cons d t => simp [escape, escapeChar_ne_nil] at h
  | cons c s ih =>
    cases t with
    | nil => simp [escape, escapeChar_ne_nil] at h
    | cons d t =>
      rw [escape, escape, List.flatMap_cons, List.flatMap_cons] at h
      obtain ⟨rfl, hrest⟩ := escapeChar_append_inj h
      rw [ih hrest]

/-- Nothing, or markup, comes behind an escaped text. -/
def AtMarkup (s : Text) : Prop := s = [] ∨ ∃ c t, s = c :: t ∧ isMarkup c = true

/-- No markup is in an escaped text. -/
theorem escape_ne {v w t : Text} {c : Char} (hc : isMarkup c = true) :
    escape v ≠ escape w ++ c :: t := by
  intro h
  have hmem := isMarkup_escape c (s := v) (by rw [h]; simp)
  rw [hc] at hmem
  cases hmem

theorem escape_append_inj {v w s t : Text} (hs : AtMarkup s) (ht : AtMarkup t)
    (h : escape v ++ s = escape w ++ t) : v = w ∧ s = t := by
  rcases hs with rfl | ⟨c, s, rfl, hc⟩ <;> rcases ht with rfl | ⟨d, t, rfl, hd⟩
  · rw [List.append_nil, List.append_nil] at h
    exact ⟨escape_injective h, rfl⟩
  · rw [List.append_nil] at h
    exact absurd h (escape_ne hd)
  · rw [List.append_nil] at h
    exact absurd h.symm (escape_ne hc)
  · obtain ⟨hvw, rfl, rfl⟩ := Text.append_cons_inj isMarkup_escape isMarkup_escape hc hd h
    exact ⟨escape_injective hvw, rfl⟩

/-! ## Tags are read back -/

/-- The characters that end the name of a tag. -/
def endsName (c : Char) : Bool := c = ' ' || c = '>'

theorem endsName_of_isNameChar {c : Char} (h : isNameChar c = true) : endsName c = false := by
  simp only [isNameChar, Text.isBlank, Bool.and_eq_true, Bool.not_eq_true', bne_iff_ne,
    Bool.or_eq_false_iff, decide_eq_false_iff_not] at h
  simp [endsName, h]

theorem endsName_of_isTagName {name : Text} (h : isTagName name = true) :
    ∀ c ∈ name, endsName c = false := by
  cases name with
  | nil => cases h
  | cons c name =>
    rw [isTagName, Bool.and_eq_true, List.all_eq_true] at h
    exact fun d hd => endsName_of_isNameChar (h.2 d hd)

/-- The name of an attribute is read up to the first equals sign behind its first character. -/
theorem isAttributeName_inj {v w s t : Text} (hv : isAttributeName v = true)
    (hw : isAttributeName w = true) (h : v ++ '=' :: s = w ++ '=' :: t) : v = w ∧ s = t := by
  cases v with
  | nil => cases hv
  | cons c v =>
    cases w with
    | nil => cases hw
    | cons d w =>
      have hequals : ∀ {name : Text}, (!name.contains '=') = true → ∀ x ∈ name, (x == '=') = false := by
        intro name hname x hx
        simp only [Bool.not_eq_true', List.contains_eq_mem, decide_eq_false_iff_not] at hname
        simp only [beq_eq_false_iff_ne]
        rintro rfl
        exact hname hx
      rw [isAttributeName, Bool.and_eq_true] at hv hw
      obtain ⟨rfl, hrest⟩ := List.cons.inj h
      obtain ⟨rfl, -, hst⟩ := Text.append_cons_inj (hequals hv.2) (hequals hw.2) (by rfl) (by rfl) hrest
      exact ⟨rfl, hst⟩

/-- Attributes and the end of their tag are read back. -/
theorem attributeText_inj {as bs : List (Text × Text)}
    (has : ∀ a ∈ as, isAttributeName a.1 = true) (hbs : ∀ b ∈ bs, isAttributeName b.1 = true)
    {s t : Text} (h : as.flatMap attributeText ++ '>' :: s = bs.flatMap attributeText ++ '>' :: t) :
    as = bs ∧ s = t := by
  induction as generalizing bs with
  | nil =>
    cases bs with
    | nil => exact ⟨rfl, (List.cons.inj h).2⟩
    | cons b bs => simp [attributeText] at h
  | cons a as ih =>
    cases bs with
    | nil => simp [attributeText] at h
    | cons b bs =>
      rw [List.forall_mem_cons] at has hbs
      simp only [List.flatMap_cons, attributeText, List.cons_append, List.append_assoc,
        List.cons.injEq, true_and, List.nil_append] at h
      obtain ⟨hname, hvalue⟩ := isAttributeName_inj has.1 hbs.1 h
      obtain ⟨hvalue, hrest⟩ := escape_append_inj (Or.inr ⟨'"', _, rfl, rfl⟩)
        (Or.inr ⟨'"', _, rfl, rfl⟩) (List.cons.inj hvalue).2
      obtain ⟨hmore, hst⟩ := ih has.2 hbs.2 (List.cons.inj hrest).2
      exact ⟨by rw [hmore, Prod.ext hname hvalue], hst⟩

/-- An opening tag is read back. -/
theorem openingTag_inj {name name' : Text} {as bs : List (Text × Text)}
    (hname : isTagName name = true) (hname' : isTagName name' = true)
    (has : ∀ a ∈ as, isAttributeName a.1 = true) (hbs : ∀ b ∈ bs, isAttributeName b.1 = true)
    {s t : Text} (h : name ++ (as.flatMap attributeText ++ '>' :: s) =
      name' ++ (bs.flatMap attributeText ++ '>' :: t)) : name = name' ∧ as = bs ∧ s = t := by
  -- Behind the name stands a space or the end of the tag.
  have hends : ∀ (as : List (Text × Text)) (s : Text),
      ∃ c rest, as.flatMap attributeText ++ '>' :: s = c :: rest ∧ endsName c = true := by
    intro as s
    cases as with
    | nil => exact ⟨'>', s, rfl, rfl⟩
    | cons a as => exact ⟨' ', _, rfl, rfl⟩
  obtain ⟨c, rest, hc, hcends⟩ := hends as s
  obtain ⟨d, rest', hd, hdends⟩ := hends bs t
  have hsplit := h
  rw [hc, hd] at hsplit
  obtain ⟨rfl, -, -⟩ := Text.append_cons_inj (endsName_of_isTagName hname)
    (endsName_of_isTagName hname') hcends hdends hsplit
  exact ⟨rfl, attributeText_inj has hbs (List.append_cancel_left h)⟩

/-! ## Canonical forms are read back -/

/-- Whether a node is a text. -/
def isText : Node → Bool
  | text _ => true
  | _ => false

mutual

/-- What a node of a canonical form is like. -/
def IsCanonical : Node → Prop
  | doctype name publicId systemId => '>' ∉ name ∧ publicId = [] ∧ systemId = []
  | element name attributes children =>
    isTagName name = true ∧ (∀ a ∈ attributes, isAttributeName a.1 = true) ∧
      (isVoid name = true → children = []) ∧ AreCanonical children
  | text contents => contents ≠ []
  | comment _ => False
  | instruction _ _ => False
termination_by structural n => n

/-- What the nodes of a canonical form are like: no two texts stand side by side. -/
def AreCanonical : List Node → Prop
  | [] => True
  | n :: more =>
    IsCanonical n ∧ AreCanonical more ∧ (isText n = true → ∀ m ∈ more.head?, isText m = false)
termination_by structural ns => ns

end

/-- Nothing, or a closing tag, comes behind the last of the nodes in an element. -/
def AtClose (s : Text) : Prop := s = [] ∨ ∃ t, s = '<' :: '/' :: t

theorem AtClose.atMarkup {s : Text} (h : AtClose s) : AtMarkup s := by
  rcases h with rfl | ⟨t, rfl⟩
  · exact Or.inl rfl
  · exact Or.inr ⟨'<', _, rfl, rfl⟩

/-- How the text of a node starts. -/
theorem print_start {n : Node} (h : IsCanonical n) :
    (isText n = true ∧ ∃ c s, print n = c :: s ∧ c ≠ '<') ∨
      (isText n = false ∧ ∃ c s, print n = '<' :: c :: s ∧ c ≠ '/') := by
  cases n with
  | doctype name publicId systemId => exact Or.inr ⟨rfl, '!', _, rfl, by decide⟩
  | element name attributes children =>
    rw [IsCanonical] at h
    cases name with
    | nil => cases h.1
    | cons c name =>
      refine Or.inr ⟨rfl, c, _, rfl, ?_⟩
      rintro rfl
      exact absurd h.1 (by simp [isTagName, Text.isAsciiLetter])
  | text contents =>
    rw [IsCanonical] at h
    cases hescape : escape contents with
    | nil => exact absurd (escape_injective (t := []) hescape) h
    | cons c s =>
      refine Or.inl ⟨rfl, c, s, hescape, ?_⟩
      rintro rfl
      exact absurd (isMarkup_escape '<' (s := contents) (by rw [hescape]; simp)) (by decide)
  | comment contents => exact absurd h id
  | instruction target contents => exact absurd h id

/-- A text is told from other nodes by the first character. -/
theorem print_apart {n m : Node} (hn : IsCanonical n) (hm : IsCanonical m)
    (hkind : isText n ≠ isText m) (s t : Text) : print n ++ s ≠ print m ++ t := by
  intro h
  rcases print_start hn with ⟨htext, c, u, hc, hne⟩ | ⟨htext, c, u, hc, -⟩ <;>
    rcases print_start hm with ⟨htext', d, v, hd, hne'⟩ | ⟨htext', d, v, hd, -⟩
  · exact hkind (htext.trans htext'.symm)
  · rw [hc, hd] at h
    exact hne (List.cons.inj h).1
  · rw [hc, hd] at h
    exact hne' (List.cons.inj h).1.symm
  · exact hkind (htext.trans htext'.symm)

/-- A node is told from a closing tag by the first two characters. -/
theorem print_ne_close {n : Node} (hn : IsCanonical n) {s : Text} (hs : AtClose s) (t : Text) :
    print n ++ t ≠ s := by
  rintro rfl
  rcases print_start hn with ⟨-, c, u, hc, hne⟩ | ⟨-, c, u, hc, hne⟩ <;>
    rcases hs with hs | ⟨v, hs⟩ <;> rw [hc] at hs
  · cases hs
  · exact hne (List.cons.inj hs).1
  · cases hs
  · exact hne (List.cons.inj (List.cons.inj hs).2).1

/-- Behind a text stands markup. -/
theorem atMarkup_printAll {ns : List Node} (hns : AreCanonical ns)
    (hnext : ∀ m ∈ ns.head?, isText m = false) {s : Text} (hs : AtClose s) :
    AtMarkup (printAll ns ++ s) := by
  cases ns with
  | nil => exact hs.atMarkup
  | cons n ns =>
    have hkind : isText n = false := hnext n rfl
    rcases print_start hns.1 with ⟨htext, -⟩ | ⟨-, c, u, hc, -⟩
    · rw [hkind] at htext
      cases htext
    · exact Or.inr ⟨'<', c :: u ++ printAll ns ++ s, by rw [printAll, hc]; rfl, rfl⟩

/-- A document type is told from an element by the second character. -/
theorem typeText_apart {name : Text} (hname : isTagName name = true) (type s t : Text) :
    typeText type ++ s ≠ '<' :: (name ++ t) := by
  intro h
  cases name with
  | nil => cases hname
  | cons c name =>
    have hc : '!' = c := (List.cons.inj (List.cons.inj h).2).1
    rw [← hc] at hname
    exact absurd hname (by simp [isTagName, Text.isAsciiLetter])

theorem typeText_inj {type type' s t : Text} (htype : '>' ∉ type) (htype' : '>' ∉ type')
    (h : typeText type ++ s = typeText type' ++ t) : type = type' ∧ s = t := by
  have hends : ∀ {type : Text}, '>' ∉ type → ∀ c ∈ type, (c == '>') = false := by
    intro type htype c hc
    rw [beq_eq_false_iff_ne]
    rintro rfl
    exact htype hc
  rw [typeText_eq, typeText_eq, List.append_assoc, List.append_assoc, List.append_assoc,
    List.append_assoc] at h
  obtain ⟨rfl, -, hst⟩ := Text.append_cons_inj (hends htype) (hends htype') (by rfl) (by rfl)
    (List.append_cancel_left h)
  exact ⟨rfl, hst⟩

theorem print_element (name : Text) (attributes : List (Text × Text)) (children : List Node)
    (s : Text) : print (element name attributes children) ++ s =
      '<' :: (name ++ (attributes.flatMap attributeText ++
        '>' :: ((if isVoid name then [] else printAll children ++ closingTag name) ++ s))) := by
  rw [print]
  simp only [List.cons_append, List.append_assoc, List.nil_append]

mutual

/-- A node is told by its text, whatever follows. -/
theorem print_inj : ∀ (n m : Node) {s t : Text}, IsCanonical n → IsCanonical m →
    (isText n = true → AtMarkup s) → (isText m = true → AtMarkup t) →
    print n ++ s = print m ++ t → n = m ∧ s = t
  | doctype name publicId systemId, m, s, t, hn, hm, _, _, h => by
    cases m with
    | doctype name' publicId' systemId' =>
      obtain ⟨hname, rfl, rfl⟩ := hn
      obtain ⟨hname', rfl, rfl⟩ := hm
      rw [print, print] at h
      obtain ⟨rfl, hst⟩ := typeText_inj hname hname' h
      exact ⟨rfl, hst⟩
    | element name' attributes' children' =>
      rw [print, print_element] at h
      exact absurd h (typeText_apart hm.1 _ _ _)
    | text contents' => exact absurd h (print_apart hn hm (by simp [isText]) _ _)
    | comment contents' => exact absurd hm id
    | instruction target' contents' => exact absurd hm id
  | element name attributes children, m, s, t, hn, hm, _, _, h => by
    cases m with
    | doctype name' publicId' systemId' =>
      rw [print_element, print] at h
      exact absurd h.symm (typeText_apart hn.1 _ _ _)
    | element name' attributes' children' =>
      obtain ⟨hname, hattributes, hvoid, hchildren⟩ := hn
      obtain ⟨hname', hattributes', hvoid', hchildren'⟩ := hm
      rw [print_element, print_element] at h
      obtain ⟨rfl, rfl, hrest⟩ :=
        openingTag_inj hname hname' hattributes hattributes' (List.cons.inj h).2
      by_cases hempty : isVoid name = true
      · rw [if_pos hempty, if_pos hempty] at hrest
        exact ⟨by rw [hvoid hempty, hvoid' hempty], hrest⟩
      · rw [if_neg hempty, if_neg hempty, List.append_assoc, List.append_assoc] at hrest
        obtain ⟨rfl, hclose⟩ := printAll_inj children children' hchildren hchildren'
          (Or.inr ⟨_, rfl⟩) (Or.inr ⟨_, rfl⟩) hrest
        have hafter : closingTag name ++ s = closingTag name ++ t := hclose
        exact ⟨rfl, List.append_cancel_left hafter⟩
    | text contents' => exact absurd h (print_apart hn hm (by simp [isText]) _ _)
    | comment contents' => exact absurd hm id
    | instruction target' contents' => exact absurd hm id
  | text contents, m, s, t, hn, hm, hs, ht, h => by
    by_cases hkind : isText m = true
    · cases m with
      | text contents' =>
        rw [print, print] at h
        obtain ⟨rfl, hst⟩ := escape_append_inj (hs rfl) (ht rfl) h
        exact ⟨rfl, hst⟩
      | _ => cases hkind
    · exact absurd h (print_apart hn hm (fun heq => hkind heq.symm) _ _)
  | comment _, _, _, _, hn, _, _, _, _ => absurd hn id
  | instruction _ _, _, _, _, hn, _, _, _, _ => absurd hn id

/-- Nodes are told by their text, if what follows is the end of the text or a closing tag. -/
theorem printAll_inj : ∀ (ns ms : List Node) {s t : Text}, AreCanonical ns → AreCanonical ms →
    AtClose s → AtClose t → printAll ns ++ s = printAll ms ++ t → ns = ms ∧ s = t
  | [], [], _, _, _, _, _, _, h => ⟨rfl, h⟩
  | [], m :: ms, s, t, _, hms, hs, _, h => by
    rw [printAll, printAll, List.append_assoc] at h
    exact absurd h.symm (print_ne_close hms.1 hs _)
  | n :: ns, [], s, t, hns, _, _, ht, h => by
    rw [printAll, printAll, List.append_assoc] at h
    exact absurd h (print_ne_close hns.1 ht _)
  | n :: ns, m :: ms, s, t, hns, hms, hs, ht, h => by
    obtain ⟨hn, hmore, hnext⟩ := hns
    obtain ⟨hm, hmore', hnext'⟩ := hms
    rw [printAll, printAll, List.append_assoc, List.append_assoc] at h
    obtain ⟨rfl, hrest⟩ := print_inj n m hn hm (fun htext => atMarkup_printAll hmore (hnext htext) hs)
      (fun htext => atMarkup_printAll hmore' (hnext' htext) ht) h
    obtain ⟨rfl, hst⟩ := printAll_inj ns ms hmore hmore' hs ht hrest
    exact ⟨rfl, hst⟩

end

/-! ## Documents with the same text -/

/-- What is joined is of a canonical form. -/
theorem areCanonical_joinTexts {ns : List Node} (h : ∀ n ∈ ns, IsCanonical n) :
    AreCanonical (joinTexts ns) := by
  induction ns with
  | nil => exact trivial
  | cons n ns ih =>
    rw [List.forall_mem_cons] at h
    have hmore := ih h.2
    rw [joinTexts_cons]
    split
    · rename_i a b rest hrest
      rw [hrest] at hmore
      have hne : a ≠ [] := h.1
      exact ⟨by simp [IsCanonical, hne], hmore.2.1, fun _ => hmore.2.2 rfl⟩
    · rename_i n _ _ hapart
      refine ⟨h.1, hmore, fun htext m hm => ?_⟩
      -- Two texts would have been joined.
      cases n with
      | text a =>
        cases m with
        | text b =>
          obtain ⟨rest, hrest⟩ := List.head?_eq_some_iff.1 hm
          exact absurd hrest (hapart a b rest rfl)
        | _ => rfl
      | _ => cases htext

mutual

/-- What is left of a node in the canonical form is of such a form. -/
theorem isCanonical_pruned {keepWrappers : Bool} : ∀ n : Node, everywhere isNamed n = true →
    (keepWrappers = true → everywhere isTyped n = true) →
    ∀ m ∈ pruned false keepWrappers n, IsCanonical m
  | doctype name publicId systemId, _, htyped => by
    intro m hm
    rw [pruned] at hm
    split at hm
    · rename_i hkeep
      obtain rfl := List.mem_singleton.1 hm
      exact ⟨by simpa [everywhere, isTyped] using htyped hkeep, rfl, rfl⟩
    · cases hm
  | element name attributes children, hnamed, htyped => by
    rw [everywhere, Bool.and_eq_true, isNamed, Bool.and_eq_true, List.all_eq_true] at hnamed
    obtain ⟨⟨hname, hattributes⟩, hchildren⟩ := hnamed
    have hpruned := isCanonical_prunedAll children hchildren fun hkeep => by
      simpa [everywhere, isTyped] using htyped hkeep
    intro m hm
    rw [pruned] at hm
    split at hm
    · exact hpruned m hm
    · obtain rfl := List.mem_singleton.1 hm
      refine ⟨hname, fun a ha => hattributes a (List.mem_mergeSort.1 ha), fun h => if_pos h, ?_⟩
      split
      · exact trivial
      · exact areCanonical_joinTexts hpruned
  | text contents, _, _ => by
    intro m hm
    rw [pruned] at hm
    split at hm
    · cases hm
    · rename_i hne
      obtain rfl := List.mem_singleton.1 hm
      exact hne
  | comment _, _, _ => by simp [pruned]
  | instruction _ _, _, _ => by simp [pruned]

/-- What is left of nodes in the canonical form is of such a form. -/
theorem isCanonical_prunedAll {keepWrappers : Bool} : ∀ ns : List Node,
    everywhereAll isNamed ns = true → (keepWrappers = true → everywhereAll isTyped ns = true) →
    ∀ m ∈ prunedAll false keepWrappers ns, IsCanonical m
  | [], _, _ => by simp [prunedAll]
  | n :: ns, hnamed, htyped => by
    rw [everywhereAll, Bool.and_eq_true] at hnamed htyped
    intro m hm
    rw [prunedAll, List.mem_append] at hm
    rcases hm with hm | hm
    · exact isCanonical_pruned n hnamed.1
        (fun hkeep => (htyped hkeep).1) m hm
    · exact isCanonical_prunedAll ns hnamed.2
        (fun hkeep => (htyped hkeep).2) m hm

end

/-- **Documents are written alike if and only if their canonical forms are the same**, where of
a document type the name counts alone. -/
theorem writeAll_eq_iff_canonical_eq (keepWrappers : Bool) (ns ms : List Node)
    (hns : everywhereAll isNamed ns = true) (hms : everywhereAll isNamed ms = true)
    (htypes : keepWrappers = true → everywhereAll isTyped ns = true)
    (htypes' : keepWrappers = true → everywhereAll isTyped ms = true) :
    writeAll keepWrappers ns = writeAll keepWrappers ms ↔
      canonical false keepWrappers ns = canonical false keepWrappers ms := by
  rw [writeAll_eq_printAll false, writeAll_eq_printAll false]
  constructor
  · intro h
    have hcanonical : ∀ ns : List Node, everywhereAll isNamed ns = true →
        (keepWrappers = true → everywhereAll isTyped ns = true) →
        AreCanonical (canonical false keepWrappers ns) := fun ns hnamed htyped =>
      areCanonical_joinTexts (isCanonical_prunedAll ns hnamed htyped)
    exact (printAll_inj _ _ (s := []) (t := []) (hcanonical ns hns htypes)
      (hcanonical ms hms htypes') (Or.inl rfl) (Or.inl rfl) (by rw [h])).1
  · exact congrArg printAll

/-- A text that reads like an element is told from the element. -/
theorem writeAll_eq_iff_canonical_eq_escaped :
    let ns := [doctype "html".toList [] [], element ['b'] [] [text "<i>".toList]]
    let ms := [doctype "html".toList [] [], element ['b'] [] [element ['i'] [] []]]
    everywhereAll isNamed ns = true ∧ everywhereAll isNamed ms = true ∧
      everywhereAll isTyped ns = true ∧ everywhereAll isTyped ms = true ∧
      canonical false true ns ≠ canonical false true ms := by
  intro ns ms
  have hns : everywhereAll isNamed ns = true := by decide +kernel
  have hms : everywhereAll isNamed ms = true := by decide +kernel
  have htypes : everywhereAll isTyped ns = true := by decide +kernel
  have htypes' : everywhereAll isTyped ms = true := by decide +kernel
  refine ⟨hns, hms, htypes, htypes', fun h => ?_⟩
  have hwritten := (writeAll_eq_iff_canonical_eq true ns ms hns hms (fun _ => htypes)
    fun _ => htypes').2 h
  exact absurd hwritten (by decide +kernel)

/-- The names and public identifiers of the document types among nodes. -/
def types : List Node → List (Text × Text)
  | [] => []
  | doctype name publicId _ :: more => (name, publicId) :: types more
  | _ :: more => types more

/-- Neither the identifiers of a document type, which two texts can differ in, nor a sign in its
name that ends a tag are told from what is written. -/
theorem writeAll_eq_of_types_ne :
    (let ns := parse "<!DOCTYPE html PUBLIC \"-//W3C//DTD HTML 4.01//EN\"><html></html>".toList
      let ms := parse "<!DOCTYPE html><html></html>".toList
      everywhereAll isNamed ns = true ∧ everywhereAll isNamed ms = true ∧
        writeAll true ns = writeAll true ms ∧ canonical true true ns ≠ canonical true true ms) ∧
    (let ns := [doctype "a><br".toList [] []]
      let ms := [doctype ['a'] [] [], element ['b', 'r'] [] []]
      everywhereAll isNamed ns = true ∧ everywhereAll isNamed ms = true ∧
        writeAll true ns = writeAll true ms ∧ canonical true true ns ≠ canonical true true ms) := by
  refine ⟨⟨?_, ?_, ?_, fun h => ?_⟩, ⟨?_, ?_, ?_, fun h => ?_⟩⟩
  · decide +kernel
  · decide +kernel
  · decide +kernel
  · exact absurd (congrArg types h) (by decide +kernel)
  · decide +kernel
  · decide +kernel
  · decide +kernel
  · exact absurd (congrArg types h) (by decide +kernel)

end Node
end Componentry
