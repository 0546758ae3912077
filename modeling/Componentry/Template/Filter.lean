import Componentry.Template.Escape
import Componentry.Template.Filter.Test

/-!
# Filters

A filter makes a value out of another one, `value | name(…)`.  Filters are looked up by name
when they run; some have two names.  Those that apply another filter to every item of a list
are told how (`Filter.applyWith`), and then applied to as many levels as there are names among
the arguments (`Filter.apply`).
-/

namespace Componentry.Template

/-- The filters. -/
inductive Filter where
  | safe | escape
  | lower | upper | title | capitalize | replace | trim | join | split | lines | indent
  | length | default | string | bool | int | float | round | abs | pprint
  | dictSort | pairs | reverse | attr | first | last | min | max | sort | list
  | batch | slice | sum | unique | groupBy | chain | zip
  /-- Keeps the items that pass a test, or those that do not; of the items themselves or of
  an attribute. -/
  | select (keep ofPart : Bool)
  | map
deriving DecidableEq, Repr

namespace Filter

/-- The filters under their names. -/
def table : List (Text × Filter) :=
  [("safe".toList, safe), ("upper".toList, upper), ("length".toList, length),
    ("default".toList, default), ("join".toList, join), ("first".toList, first),
    ("string".toList, string), ("escape".toList, escape), (['e'], escape),
    ("lower".toList, lower), ("title".toList, title), ("capitalize".toList, capitalize),
    ("replace".toList, replace), ("count".toList, length), ("dictsort".toList, dictSort),
    ("items".toList, pairs), ("reverse".toList, reverse), ("trim".toList, trim),
    ("split".toList, split), ("lines".toList, lines), (['d'], default),
    ("round".toList, round), ("abs".toList, abs), ("int".toList, int), ("float".toList, float),
    ("attr".toList, attr), ("last".toList, last), ("min".toList, min), ("max".toList, max),
    ("sort".toList, sort), ("list".toList, list), ("bool".toList, bool),
    ("batch".toList, batch), ("slice".toList, slice), ("sum".toList, sum),
    ("indent".toList, indent), ("select".toList, select true false),
    ("reject".toList, select false false), ("selectattr".toList, select true true),
    ("rejectattr".toList, select false true), ("map".toList, map),
    ("groupby".toList, groupBy), ("unique".toList, unique), ("chain".toList, chain),
    ("zip".toList, zip), ("pprint".toList, pprint)]

/-- The filter of a name. -/
def named? (name : Text) : Option Filter :=
  (table.find? fun (n, _) => n = name).map Prod.snd

/-! ## Texts -/

/-- A text made of the filtered one, of which there may be no other argument. -/
def onText (f : Text → Text) (args : Arguments) : Except Cause Value := do
  let s ← args.text 0
  args.atMost 1
  return .ofText (f s)

/-- The pieces of a text: between separators, or else its words. -/
def applySplit (args : Arguments) : Except Cause Value := do
  let s ← args.string 0
  let separator ← args.optionalString 1
  let most := (← args.whole? 2).bind fun n => if n < 0 then none else some (n.toNat + 1)
  args.atMost 3
  let pieces := match separator with
    | some separator => Text.splitOn separator most s
    | none => Text.splitWords most s
  return .iterable (pieces.map .ofText)

/-- A text with its lines indented. -/
def applyIndent (args : Arguments) : Except Cause Value := do
  let s ← args.text 0
  let width ← args.count 1
  let first ← Arguments.asFlag (args.value? 2)
  let blank ← Arguments.asFlag (args.value? 3)
  args.atMost 4
  return .ofText (Text.indent width first blank s)

/-! ## Numbers -/

/-- A float as a whole number of 128 bits, without its fraction. -/
def wholeOf (x : Float) : Int :=
  let bound : Int := Int.ofNat (Nat.pow 2 127)
  if x.isNaN then 0
  else if x.isInf then if x < 0 then -bound else bound - 1
  else
    let b := Number.magnitude x
    let n : Int := match b.exponent with
      | .ofNat e => b.mantissa * Nat.pow 2 e
      | .negSucc e => b.mantissa / Nat.pow 2 (e + 1)
    Max.max (-bound) (Min.min (bound - 1) (if Number.isNegative x then -n else n))

/-- A value as a whole number. -/
def makeInt (v : Value) : Except Cause Value :=
  match v with
  | .undefined | .none => .ok (.int 0)
  | .float x => .ok (.int (wholeOf x))
  | .string s _ =>
    match Text.int? s, Text.float? s with
    | some n, _ => .ok (.int n)
    | none, some x => .ok (.int (wholeOf x))
    | none, none => .error .invalidOperation
  | v =>
    match v.int? with
    | some n => .ok (.int n)
    | none => .error .invalidOperation

/-- A value as a float. -/
def makeFloat (v : Value) : Except Cause Value :=
  match v with
  | .undefined | .none => .ok (.float 0)
  | .string s _ =>
    match Text.float? s with
    | some x => .ok (.float x)
    | none => .error .invalidOperation
  | v =>
    match v.float? with
    | some x => .ok (.float x)
    | none => .error .invalidOperation

/-- A float rounded to so many digits; whole numbers stay. -/
def makeRound (v : Value) (digits : Int) : Except Cause Value :=
  match v with
  | .int n => .ok (.int n)
  | .float x =>
    let scale := Float.pow 10 (Float.ofInt digits)
    .ok (.float ((scale * x).round / scale))
  | _ => .error .invalidOperation

/-- A number without its sign. -/
def makeAbs (v : Value) : Except Cause Value :=
  match v with
  | .int n => .ok (.int n.natAbs)
  | .float x => .ok (.float x.abs)
  | _ => .error .invalidOperation

/-! ## Parts -/

/-- The items of a value; it fails if the value cannot be looped over. -/
def itemsOf (v : Value) : Except Cause (List Value) :=
  match v.items? with
  | some items => .ok items
  | none => .error .invalidOperation

/-- The first character, item or key of a value. -/
def firstOf (v : Value) : Except Cause Value :=
  match if v.isMissing then none else v.items? with
  | some items => .ok (items.head?.getD .undefined)
  | none => .error .invalidOperation

/-- The last character or item of a value. -/
def lastOf (v : Value) : Except Cause Value :=
  match v.text?, v.listItems? with
  | some s, _ => .ok ((s.getLast?.map fun c => .ofText [c]).getD .undefined)
  | none, some items => .ok (items.getLast?.getD .undefined)
  | none, none => .error .invalidOperation

/-- A text or the parts of a value backwards; a missing value stays. -/
def reversed (v : Value) : Except Cause Value :=
  match v with
  | .undefined | .none => .ok v
  | .string s _ => .ok (.ofText s.reverse)
  | v =>
    match v.parts? with
    | some items => .ok (.iterable items.reverse)
    | none => .error .invalidOperation

/-- The entries of a map as lists of a key and a value. -/
def pairLists (entries : List (Value × Value)) : List Value :=
  entries.map fun (k, v) => .list [k, v]

/-- The entries of a map; it fails for all other values. -/
def entriesOf (v : Value) : Except Cause (List (Value × Value)) :=
  match v.entries? with
  | some entries => .ok entries
  | none => .error .invalidOperation

/-- The entries of a map, sorted. -/
def applyDictSort (args : Arguments) : Except Cause Value := do
  let entries ← entriesOf (← args.value 0)
  let options ← args.options 1 ["by".toList, "case_sensitive".toList, "reverse".toList]
  let byValue := (← Arguments.optionText options "by".toList) == some "value".toList
  let cased ← Arguments.optionFlag options "case_sensitive".toList
  let sorted := Items.sortEntries cased byValue entries
  let backward ← Arguments.optionFlag options "reverse".toList
  return .list (pairLists (if backward then sorted.reverse else sorted))

/-- The items of a value, sorted. -/
def applySort (args : Arguments) : Except Cause Value := do
  let items ← itemsOf (← args.value 0)
  let options ← args.options 1 ["case_sensitive".toList, "attribute".toList, "reverse".toList]
  let cased ← Arguments.optionFlag options "case_sensitive".toList
  let key := match ← Arguments.optionText options "attribute".toList with
    | some names => fun v => Value.pathOr v names .undefined
    | none => id
  let sorted := Items.sortBy cased key items
  let backward ← Arguments.optionFlag options "reverse".toList
  return .list (if backward then sorted.reverse else sorted)

/-- The items of a value, each once. -/
def applyUnique (args : Arguments) : Except Cause Value := do
  let items ← itemsOf (← args.value 0)
  let options ← args.options 1 ["case_sensitive".toList, "attribute".toList]
  let cased ← Arguments.optionFlag options "case_sensitive".toList
  let key := match ← Arguments.optionText options "attribute".toList with
    | some names => fun v => Value.pathOr v names .undefined
    | none => id
  return .list (Items.unique (fun v => Value.seenAs cased (key v)) [] items)

/-- What items are grouped by, as an argument or among the options. -/
def groupNames (args : Arguments) (isGiven : Bool) (options : Value) : Except Cause (Option Text) :=
  if isGiven then args.optionalString 1 else Arguments.optionText options "attribute".toList

/-- The items of a value in groups. -/
def applyGroupBy (args : Arguments) : Except Cause Value := do
  let items ← itemsOf (← args.value 0)
  let isGiven := (args.value? 1).isSome && !args.isNamedAt 1
  let options ← args.options (if isGiven then 2 else 1)
    (["default".toList, "case_sensitive".toList] ++ if isGiven then [] else ["attribute".toList])
  let names? ← groupNames args isGiven options
  let default := (options.member? "default".toList).getD .undefined
  let cased ← Arguments.optionFlag options "case_sensitive".toList
  match names? with
  | some names => return .list (Items.groupBy cased (fun v => v.pathOr names default) items)
  | none => .error .missingArgument

/-- Rows or columns of the items of a value. -/
def applyRows (layout : (count : Nat) → (filler : Option Value) → List Value → List Value)
    (args : Arguments) : Except Cause Value := do
  let items ← itemsOf (← args.value 0)
  let count ← args.count 1
  args.atMost 3
  if count = 0 then .error .invalidOperation else return .list (layout count (args.optional 2) items)

/-- All values one behind the other: a map of maps, or else the items of all. -/
def chained (values : List Value) : Except Cause Value :=
  match values.mapM Value.entries? with
  | some entries => .ok (.ofEntries entries.flatten)
  | none => do return .iterable (← values.mapM itemsOf).flatten

/-! ## Tests and filters of items -/

/-- The names of the attribute that items are selected by, if they are by one. -/
def selectedPart (ofPart : Bool) (args : Arguments) : Except Cause (Option Text) :=
  if ofPart then (args.text 1).map some else .ok none

/-- What an item is selected by: itself, or an attribute of it. -/
def testedOf (names : Option Text) (v : Value) : Except Cause Value :=
  match names with
  | some names => v.path names
  | none => .ok v

/-- The test of a name, if there is one. -/
def testOf (name : Option Text) : Except Cause (Option Test) :=
  match name.map Test.named? with
  | none => .ok none
  | some (some t) => .ok (some t)
  | some none => .error .unknownTest

/-- Whether an item is kept: by a test, or else if it counts as true. -/
def isSelected (test : Option Test) (more : List Value) (v : Value) : Except Cause Bool :=
  match test with
  | some t => do
    return (← t.apply (fun name => (named? name).isSome) (.ofValues (v :: more))).isTrue
  | none => .ok v.isTrue

/-- The items of a value that are kept. -/
def applySelect (keep ofPart : Bool) (args : Arguments) : Except Cause Value := do
  let items ← itemsOf (← args.value 0)
  let names ← selectedPart ofPart args
  let position := if ofPart then 2 else 1
  let test ← testOf (← args.optionalText position)
  let more := args.values.drop (position + 1)
  let kept ← items.filterM fun v => do
    return (← isSelected test more (← testedOf names v)) == keep
  return .list kept

/-- The part of an item at a path of names, or under another key. -/
def partAt (names v : Value) : Except Cause Value :=
  match names with
  | .string names _ => v.path names
  | key => v.item key

/-- What stands for an item: an attribute of it, or something else where that is undefined or
not there. -/
def attributeOf (names default : Value) (v : Value) : Except Cause Value :=
  match partAt names v with
  | .ok w => .ok (if w.isUndefined then default else w)
  | .error cause => if default.isUndefined then .error cause else .ok default

/-- What a filter or an attribute makes of every item of a value. -/
def applyMap (inner : Filter → Arguments → Except Cause Value) (args : Arguments) :
    Except Cause Value := do
  let items ← itemsOf (← args.value 0)
  let named := if args.named then args.values.getLast?.getD .undefined else .undefined
  let positional := if args.named then args.values.dropLast else args.values
  match named.member? "attribute".toList with
  | some names =>
    if 1 < positional.length then .error .tooManyArguments
    else
      let default := (named.member? "default".toList).getD .undefined
      return .list (← items.mapM (attributeOf names default))
  | none =>
    match positional[1]?.bind Value.text? with
    | some name =>
      match named? name with
      | some f => return .list (← items.mapM fun v => inner f (.ofValues (v :: positional.drop 2)))
      | none => .error .unknownFilter
    | none => .error .invalidOperation

/-! ## All filters -/

/-- Applies a filter; the filtered value is the first argument.  `inner` applies the filters
that it applies to items. -/
def applyWith (inner : Filter → Arguments → Except Cause Value) (f : Filter) (args : Arguments) :
    Except Cause Value :=
  match f with
  | safe => do
    let s ← args.text 0
    args.atMost 1
    return .ofMarkup s
  | escape => do
    let v ← args.value 0
    args.atMost 1
    return if v.isSafe then v else .ofMarkup v.markup
  | lower => onText Text.lower args
  | upper => onText Text.upper args
  | title => onText Text.title args
  | capitalize => onText Text.capitalize args
  | replace => do
    let s ← args.text 0
    let old ← args.text 1
    let new ← args.text 2
    args.atMost 3
    return .ofText (Text.replace old new s)
  | trim => do
    let s ← args.text 0
    let chars ← args.optionalText 1
    args.atMost 2
    return .ofText (match chars with
      | some chars => Text.trimOf chars s
      | none => Text.trim s)
  | join => do
    let v ← args.value 0
    let separator := (← args.optionalText 1).getD []
    args.atMost 2
    if v.isMissing then return .ofText []
    match v.items? with
    | some items => return .ofText (separator.intercalate (items.map Value.text))
    | none => .error .invalidOperation
  | split => applySplit args
  | lines => do
    let s ← args.string 0
    args.atMost 1
    return .iterable ((Text.lines s).map .ofText)
  | indent => applyIndent args
  | length => do
    let v ← args.value 0
    args.atMost 1
    match v.length? with
    | some n => return .int n
    | none => .error .invalidOperation
  | default => do
    let v ← args.value 0
    let other := (args.value? 1).getD (.ofText [])
    let lax ← args.flag 2 ['b', 'o', 'o', 'l', 'e', 'a', 'n']
    args.atMost 3
    return if v.isUndefined || (lax && !v.isTrue) then other else v
  | string => do
    let v ← args.value 0
    args.atMost 1
    return match v with
      | .string .. => v
      | v => .ofText v.text
  | bool => do
    let v ← args.value 0
    args.atMost 1
    return .bool v.isTrue
  | int => do
    let v ← args.value 0
    args.atMost 1
    makeInt v
  | float => do
    let v ← args.value 0
    args.atMost 1
    makeFloat v
  | round => do
    let v ← args.value 0
    let digits := (← args.whole? 1).getD 0
    args.atMost 2
    makeRound v digits
  | abs => do
    let v ← args.value 0
    args.atMost 1
    makeAbs v
  | pprint => do
    let v ← args.value 0
    args.atMost 1
    return .ofText (v.prettyText [])
  | dictSort => applyDictSort args
  | pairs => do
    let entries ← entriesOf (← args.value 0)
    args.atMost 1
    return .list (pairLists entries)
  | reverse => do
    let v ← args.value 0
    args.atMost 1
    reversed v
  | attr => do
    let v ← args.value 0
    let key ← args.value 1
    args.atMost 2
    v.item key
  | first => do
    let v ← args.value 0
    args.atMost 1
    firstOf v
  | last => do
    let v ← args.value 0
    args.atMost 1
    lastOf v
  | min => do
    let items ← itemsOf (← args.value 0)
    args.atMost 1
    return Items.extreme false items
  | max => do
    let items ← itemsOf (← args.value 0)
    args.atMost 1
    return Items.extreme true items
  | sort => applySort args
  | list => do
    let items ← itemsOf (← args.value 0)
    args.atMost 1
    return .list items
  | batch => applyRows (fun count filler items => Items.rows count filler items.length items) args
  | slice => applyRows Items.columns args
  | sum => do
    let items ← itemsOf (← args.value 0)
    args.atMost 1
    Items.sum items
  | unique => applyUnique args
  | groupBy => applyGroupBy args
  | chain => do
    let _ ← args.value 0
    chained args.values
  | zip => do
    let _ ← args.value 0
    let lists ← args.values.mapM itemsOf
    return .list (Items.zip lists lists.flatten.length)
  | select keep ofPart => applySelect keep ofPart args
  | map => applyMap inner args

/-- Applies a filter, with so many levels of filters of items. -/
def applyAt : (levels : Nat) → Filter → Arguments → Except Cause Value
  | 0 => applyWith fun _ _ => .error .invalidOperation
  | levels + 1 => applyWith (applyAt levels)

/-- Applies a filter.  Each filter of items takes the name of another from the arguments. -/
def apply (f : Filter) (args : Arguments) : Except Cause Value :=
  applyAt args.values.length f args

end Filter

end Componentry.Template
