import Componentry.Json.Basic
import Componentry.Number.Shortest
import Componentry.Template.Names
import Componentry.Text.Display

/-!
# Values of templates

The values that expressions work with.  Strings remember whether they are
**safe**, that is, already markup; everything else is escaped when it is written
out.  A `deferred` value holds the source of slot content.

A list that was computed from others, such as a slice, is an `iterable`: it has
the same items, but is of another kind.  A `record` has named values as a map has, and
is what a template knows of a loop, of another template, or of values that it can set
by name.  What can change of a record is kept in a **cell** of the memory of the run.

A `routine` is a macro, a piece of a template that can be called, with the closure that holds the
variables it has taken along.

Values are ordered first by their kind, then within the kind; the keys of a map
are kept in this order.  Two numbers are equal whatever their types, and a truth
value counts as zero or one beside a number.  No number is rounded to be compared.
-/

namespace Componentry.Template

/-- The functions that templates can call: those that generated code is written
with, and those that every template has. -/
inductive Function where
  | dict
  | merge
  | cat
  | deferred
  | invoke
  | range
  | debug
  | space
deriving DecidableEq, Repr

/-- What the named values of a record belong to. -/
inductive Form where
  /-- A round of a loop, which is written as a label.  The cell holds what the loop was
  last asked to watch. -/
  | round (label : Text) (cell : Nat)
  /-- Names that values can be set to, which are in the cell. -/
  | space (cell : Nat)
  /-- The variables of another template, which is written as its text. -/
  | module (text : Text)
  /-- Items that have been grouped, behind what they have in common; they are a list as
  well. -/
  | group
deriving DecidableEq, Repr

/-- Whether a record is a map. -/
def Form.isMap : Form → Bool
  | group => false
  | _ => true

/-- A value. -/
inductive Value where
  | undefined
  | none
  | bool (value : Bool)
  | int (value : Int)
  | float (value : Float)
  | string (value : Text) (safe : Bool)
  | list (items : List Value)
  /-- A list that was computed from others. -/
  | iterable (items : List Value)
  /-- A map; its entries are in the order of their keys. -/
  | map (entries : List (Value × Value))
  /-- Named values of some form. -/
  | record (form : Form) (entries : List (Value × Value))
  /-- A piece of a template, and the number of its closure. -/
  | routine (code : Macro) (closure : Nat)
  /-- The source of slot content. -/
  | deferred (source : Text)
  | function (f : Function)

/-- The kinds of values. -/
inductive ValueKind where
  | undefined
  | none
  | bool
  | number
  | string
  | seq
  | map
  | iterable
  | plain
deriving DecidableEq, Repr

namespace ValueKind

/-- The name of a kind. -/
def name : ValueKind → Text
  | undefined => "Undefined".toList
  | none => "None".toList
  | bool => "Bool".toList
  | number => "Number".toList
  | string => "String".toList
  | seq => "Seq".toList
  | map => "Map".toList
  | iterable => "Iterable".toList
  | plain => "Plain".toList

/-- The place of a kind in the order of values. -/
def rank : ValueKind → Nat
  | undefined => 0
  | none => 1
  | bool => 2
  | number => 3
  | string => 4
  | seq => 5
  | map => 6
  | iterable => 7
  | plain => 8

end ValueKind

namespace Value

/-- The kind of a value. -/
def kind : Value → ValueKind
  | undefined => .undefined
  | none => .none
  | bool _ => .bool
  | int _ | float _ => .number
  | string .. => .string
  | list _ => .seq
  | iterable _ => .iterable
  | map _ => .map
  | record form _ => if form.isMap then .map else .seq
  | routine .. | deferred _ | function _ => .plain

/-- A string that is not markup. -/
def ofText (s : Text) : Value := string s false

/-- A string that is markup. -/
def ofMarkup (s : Text) : Value := string s true

/-- The text of a string. -/
def text? : Value → Option Text
  | string s _ => some s
  | _ => Option.none

/-- Whether a value is undefined. -/
def isUndefined : Value → Bool
  | undefined => true
  | _ => false

/-- Whether a value is undefined or none. -/
def isMissing : Value → Bool
  | undefined | none => true
  | _ => false

/-- Whether a value is a string that is markup. -/
def isSafe : Value → Bool
  | string _ safe => safe
  | _ => false

/-! ## Text of values -/

/-- The text of a truth value. -/
def boolText (b : Bool) : Text := if b then ['t', 'r', 'u', 'e'] else ['f', 'a', 'l', 's', 'e']

/-- The text of a function: the full path of what it is made from, which is longer
than the name that it is called by. -/
def functionText : Function → Text
  | .dict => "tagweave::runtime::dict".toList
  | .merge => "tagweave::runtime::merge".toList
  | .cat => "tagweave::runtime::cat".toList
  | .deferred => "tagweave::runtime::deferred".toList
  | .invoke => "tagweave::runtime::BaseNamespace::environment::\x7b\x7bclosure\x7d\x7d".toList
  | .range => "minijinja::functions::builtins::range".toList
  | .debug => "minijinja::functions::builtins::debug".toList
  | .space => "minijinja::functions::builtins::namespace".toList

mutual

/-- The text of a value inside of a list or a map, where strings are quoted and
floats compact. -/
def innerText : Value → Text
  | undefined => "undefined".toList
  | none => "none".toList
  | bool b => boolText b
  | int n => Text.ofInt n
  | float x => Number.compactFloatText x
  | string s _ => Text.display s
  | list items | iterable items => '[' :: itemsText items ++ [']']
  | map entries => '{' :: entriesText entries ++ ['}']
  | record form entries =>
    match form with
    | .round label _ => label
    | .space _ => '{' :: entriesText entries ++ ['}']
    | .module text => text
    | .group => '[' :: valuesText entries ++ [']']
  | routine code _ => "<macro ".toList ++ code.name ++ ['>']
  | deferred source => "DeferredSlot(".toList ++ Text.display source ++ [')']
  | function f => functionText f
termination_by structural v => v

/-- The texts of items with commas between them. -/
def itemsText : List Value → Text
  | [] => []
  | v :: more => innerText v ++ (if more.isEmpty then [] else [',', ' ']) ++ itemsText more
termination_by structural vs => vs

/-- The texts of entries with commas between them. -/
def entriesText : List (Value × Value) → Text
  | [] => []
  | (k, v) :: more =>
    innerText k ++ [':', ' '] ++ innerText v ++ (if more.isEmpty then [] else [',', ' ']) ++
      entriesText more
termination_by structural es => es

/-- The texts of the values of entries with commas between them. -/
def valuesText : List (Value × Value) → Text
  | [] => []
  | (_, v) :: more => innerText v ++ (if more.isEmpty then [] else [',', ' ']) ++ valuesText more
termination_by structural es => es

end

/-- The text of a value.  Strings stand for themselves, and undefined values have
no text. -/
def text : Value → Text
  | undefined => []
  | float x => Number.floatText x
  | string s _ => s
  | v => innerText v

/-- How much deeper the parts of a value are indented. -/
def indentation : Text := [' ', ' ', ' ', ' ']

mutual

/-- The text that shows a value with every part on a line of its own, behind a
margin. -/
def prettyText (margin : Text) : Value → Text
  | list items | iterable items =>
    '[' :: prettyItems (margin ++ indentation) items ++
      (if items.isEmpty then [] else '\n' :: margin) ++ [']']
  | map entries | record (.space _) entries =>
    '{' :: prettyEntries (margin ++ indentation) entries ++
      (if entries.isEmpty then [] else '\n' :: margin) ++ ['}']
  | deferred source =>
    "DeferredSlot(\n".toList ++ margin ++ indentation ++ Text.display source ++ [',', '\n'] ++
      margin ++ [')']
  | v => innerText v
termination_by structural v => v

/-- The lines of items. -/
def prettyItems (margin : Text) : List Value → Text
  | [] => []
  | v :: more => '\n' :: margin ++ prettyText margin v ++ ',' :: prettyItems margin more
termination_by structural vs => vs

/-- The lines of entries. -/
def prettyEntries (margin : Text) : List (Value × Value) → Text
  | [] => []
  | (k, v) :: more =>
    '\n' :: margin ++ prettyText margin k ++ [':', ' '] ++ prettyText margin v ++
      ',' :: prettyEntries margin more
termination_by structural es => es

end

/-! ## Numbers -/

/-- A number or truth value as a whole number. -/
def int? : Value → Option Int
  | bool b => some (if b then 1 else 0)
  | int n => some n
  | _ => Option.none

/-- A number or truth value as a float. -/
def float? : Value → Option Float
  | bool b => some (if b then 1 else 0)
  | int n => some (Float.ofInt n)
  | float x => some x
  | _ => Option.none

/-- A number or truth value as a whole number of 64 bits; floats without a fraction
count. -/
def int64? : Value → Option Int
  | bool b => some (if b then 1 else 0)
  | int n => if -(Nat.pow 2 63 : Nat) ≤ n && n < (Nat.pow 2 63 : Nat) then some n else Option.none
  | float x => Number.whole? x
  | _ => Option.none

/-- Whether two whole numbers both need more than 64 bits. -/
def areWide (a b : Int) : Bool := (Nat.pow 2 64 : Nat) ≤ a && (Nat.pow 2 64 : Nat) ≤ b

/-- A whole number wrapped to 128 bits with a sign. -/
def wrapped (n : Int) : Int := Int.bmod n (Nat.pow 2 128)

/-- The order of whole numbers; wide ones are wrapped. -/
def orderInts (a b : Int) : Ordering :=
  if areWide a b then compare (wrapped a) (wrapped b) else compare a b

/-- The order of numbers. -/
def orderNumbers : Value → Value → Ordering
  | int a, int b => orderInts a b
  | int a, float y => (Number.orderWhole y a).swap
  | float x, int b => Number.orderWhole x b
  | float x, float y => Number.order x y
  | _, _ => .eq

/-- Whether a whole number is equal to a float. -/
def equalFloat (n : Int) (x : Float) : Bool := Number.isExact n && Float.ofInt n == x

/-- Whether two numbers or truth values are equal; nothing else is. -/
def equalNumbers (a b : Value) : Bool :=
  match a, b with
  | float x, float y => x == y
  | float x, b => (b.int?.map fun n => equalFloat n x).getD false
  | a, float y => (a.int?.map fun n => equalFloat n y).getD false
  | a, b =>
    match a.int?, b.int? with
    | some m, some n => m == n
    | _, _ => false

/-! ## Order and equality -/

mutual

/-- The order of values. -/
def order : Value → Value → Ordering
  | string a _, string b _ => Text.order a b
  | list a, b =>
    match b with
    | list b => orderItems a b
    | b => compare ValueKind.seq.rank b.kind.rank
  | iterable a, b =>
    match b with
    | iterable b => orderItems a b
    | b => compare ValueKind.iterable.rank b.kind.rank
  | map a, b =>
    match b with
    | map b | record _ b => orderEntries a b
    | b => compare ValueKind.map.rank b.kind.rank
  | record _ a, b =>
    match b with
    | map b | record _ b => orderEntries a b
    | b => compare ValueKind.map.rank b.kind.rank
  | bool a, bool b => compare a.toNat b.toNat
  | a, b =>
    if a.kind = b.kind then
      if a.kind = .plain then Text.order a.text b.text else orderNumbers a b
    else compare a.kind.rank b.kind.rank
termination_by structural a => a

/-- The order of lists: by their first difference. -/
def orderItems : List Value → List Value → Ordering
  | [], [] => .eq
  | [], _ :: _ => .lt
  | _ :: _, [] => .gt
  | a :: s, b :: t => (order a b).then (orderItems s t)
termination_by structural a => a

/-- The order of maps: by their first difference. -/
def orderEntries : List (Value × Value) → List (Value × Value) → Ordering
  | [], [] => .eq
  | [], _ :: _ => .lt
  | _ :: _, [] => .gt
  | (k, v) :: s, (l, w) :: t => ((order k l).then (order v w)).then (orderEntries s t)
termination_by structural a => a

end

/-- The value of a key. -/
def lookup (key : Value) (entries : List (Value × Value)) : Option Value :=
  (entries.find? fun (k, _) => (order key k).isEq).map Prod.snd

mutual

/-- Whether two values are equal.  A list is equal to one that was computed, if
their items are. -/
def equal : Value → Value → Bool
  | undefined, undefined => true
  | none, none => true
  | string a _, string b _ => a == b
  | list a, b | iterable a, b =>
    match b with
    | list b | iterable b => equalItems a b
    | _ => false
  | map a, b | record _ a, b =>
    match b with
    | map b | record _ b => a.length == b.length && equalEntries b a
    | _ => false
  | deferred a, deferred b => a == b
  | routine f _, routine g _ => f.name == g.name
  | function f, function g => f == g
  | a, b => equalNumbers a b
termination_by structural a => a

/-- Whether two lists have equal items. -/
def equalItems : List Value → List Value → Bool
  | [], [] => true
  | a :: s, b :: t => equal a b && equalItems s t
  | _, _ => false
termination_by structural a => a

/-- Whether all entries have equal values in a map. -/
def equalEntries (other : List (Value × Value)) : List (Value × Value) → Bool
  | [] => true
  | (k, v) :: s =>
    (match lookup k other with
      | some w => equal v w
      | Option.none => false) && equalEntries other s
termination_by structural a => a

end

/-! ## Maps -/

/-- Gives a key a value, in the order of keys. -/
def insert (key value : Value) : List (Value × Value) → List (Value × Value)
  | [] => [(key, value)]
  | (k, v) :: more =>
    match order key k with
    | .lt => (key, value) :: (k, v) :: more
    | .eq => (k, value) :: more
    | .gt => (k, v) :: insert key value more

/-- The map of keys and values; a later value of a key replaces an earlier one. -/
def ofEntries (entries : List (Value × Value)) : Value :=
  map (entries.foldl (fun sorted (k, v) => insert k v sorted) [])

/-- The map of names and values. -/
def ofNamed (entries : List (Text × Value)) : Value :=
  ofEntries (entries.map fun (k, v) => (ofText k, v))

/-- A key as a text: its own text if it is a string, and the text that stands for
it otherwise. -/
def keyText (key : Value) : Text := key.text

/-- The entries of a map or a record. -/
def entries? : Value → Option (List (Value × Value))
  | map entries => some entries
  | record form entries => if form.isMap then some entries else Option.none
  | _ => Option.none

/-- The items of a list, computed or not. -/
def listItems? : Value → Option (List Value)
  | list items | iterable items => some items
  | record form entries => if form.isMap then Option.none else some (entries.map Prod.snd)
  | _ => Option.none

/-- Whether a value counts as true. -/
def isTrue : Value → Bool
  | undefined | none => false
  | bool b => b
  | int n => n != 0
  | float x => x != 0
  | string s _ => !s.isEmpty
  | list items | iterable items => !items.isEmpty
  | map entries | record _ entries => !entries.isEmpty
  | routine .. | deferred _ | function _ => true

/-- The number of characters, items or entries. -/
def length? : Value → Option Nat
  | string s _ => some s.length
  | list items | iterable items => some items.length
  | map entries | record _ entries => some entries.length
  | _ => Option.none

/-- What a list of targets takes a value apart into: the items of a list, or the
keys of a map. -/
def parts? (v : Value) : Option (List Value) :=
  match v.listItems? with
  | some items => some items
  | Option.none => v.entries?.map fun entries => entries.map Prod.fst

/-- What a loop runs over: the characters of a string, the items of a list, the
keys of a map, and nothing for a missing value. -/
def items? : Value → Option (List Value)
  | undefined | none => some []
  | string s _ => some (s.map fun c => ofText [c])
  | v => v.parts?

/-- The entries of a map, or the items of a list under their positions. -/
def pairs? (v : Value) : Option (List (Value × Value)) :=
  match v.listItems? with
  | some items => some (items.zipIdx.map fun (item, i) => (int i, item))
  | Option.none => v.entries?

/-- What is known of a macro. -/
def macroEntries (code : Macro) : List (Value × Value) :=
  [(ofText "arguments".toList, list (code.parameters.map ofText)),
    (ofText "caller".toList, bool code.usesCaller),
    (ofText "name".toList, ofText code.name)]

/-- The named values that belong to a value. -/
def attributes? : Value → Option (List (Value × Value))
  | routine code _ => some (macroEntries code)
  | record _ entries => some entries
  | v => v.entries?

/-- The attribute of a value, if it has one of that name. -/
def member? (v : Value) (name : Text) : Option Value :=
  v.attributes?.bind fun entries => lookup (ofText name) entries

/-- The position that a key means among `n` items; a negative one counts from the
end. -/
def index? (key : Value) (n : Nat) : Option Nat :=
  match key.int64? with
  | some (.ofNat i) => some i
  | some (.negSucc i) => if i + 1 ≤ n then some (n - (i + 1)) else Option.none
  | Option.none => Option.none

/-- The item of a value under a key. -/
def item? (v key : Value) : Option Value :=
  match v with
  | map entries => lookup key entries
  | record form entries =>
    (lookup key entries).or <|
      if form.isMap then Option.none
      else (index? key entries.length).bind fun i => (entries[i]?).map Prod.snd
  | routine code _ => lookup key (macroEntries code)
  | list items | iterable items => (index? key items.length).bind fun i => items[i]?
  | string s _ => (index? key s.length).bind fun i => s[i]?.map fun c => ofText [c]
  | _ => Option.none

/-! ## JSON -/

mutual

/-- The value of JSON data. -/
def ofJson : Json → Value
  | .null => none
  | .bool b => bool b
  | .int n => int n
  | .float x => float x
  | .string s => ofText s
  | .array items => list (ofJsonItems items)
  | .object fields => ofEntries (ofJsonFields fields)
termination_by structural j => j

/-- The values of JSON items. -/
def ofJsonItems : List Json → List Value
  | [] => []
  | j :: more => ofJson j :: ofJsonItems more
termination_by structural js => js

/-- The entries of JSON fields. -/
def ofJsonFields : List (Text × Json) → List (Value × Value)
  | [] => []
  | (name, j) :: more => (ofText name, ofJson j) :: ofJsonFields more
termination_by structural fields => fields

end

end Value

end Componentry.Template
