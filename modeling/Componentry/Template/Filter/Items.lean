import Componentry.Template.Filter.Text
import Componentry.Template.Operation

/-!
# Lists in filters

What filters do to the items of lists.  Where items are compared, the ASCII letters of texts
count without their case unless it is asked for.
-/

namespace Componentry.Template

namespace Value

/-- The attribute of a value under a name, or its item under a position. -/
def step (v : Value) (name : Text) : Except Cause Value :=
  match Text.int? name with
  | some (.ofNat n) => if name.all Text.isAsciiDigit then v.item (int n) else v.member name
  | _ => v.member name

/-- What names with points between them lead to from a value. -/
def path (v : Value) (names : Text) : Except Cause Value :=
  (Text.splitOn ['.'] Option.none names).foldlM step v

/-- What names lead to from a value, or something else where that is undefined or not
there. -/
def pathOr (v : Value) (names : Text) (default : Value) : Value :=
  match v.path names with
  | .ok w => if w.isUndefined then default else w
  | .error _ => default

/-- The order of values, with the case of texts or without. -/
def orderCased (cased : Bool) (a b : Value) : Ordering :=
  match a, b with
  | string a _, string b _ =>
    if cased then Text.order a b else Text.order (Text.asciiLower a) (Text.asciiLower b)
  | a, b => order a b

/-- What `unique` compares: the text of a string in small letters, unless its case counts. -/
def seenAs (cased : Bool) (v : Value) : Value :=
  match v with
  | string s safe => if cased then string s safe else ofText (Text.lower s)
  | v => v

end Value

namespace Items

/-- Items in the order of what they are compared by. -/
def sortBy (cased : Bool) (key : Value → Value) (items : List Value) : List Value :=
  items.mergeSort fun a b => (Value.orderCased cased (key a) (key b)).isLE

/-- Entries in the order of their keys, or of their values. -/
def sortEntries (cased byValue : Bool) (entries : List (Value × Value)) : List (Value × Value) :=
  let part := fun (e : Value × Value) => if byValue then e.2 else e.1
  entries.mergeSort fun a b => (Value.orderCased cased (part a) (part b)).isLE

/-- The first of the items that no other is below, or the last that no other is above. -/
def extreme (greatest : Bool) : List Value → Value
  | [] => .undefined
  | v :: more => more.foldl (fun best w =>
      if greatest then if (Value.order best w).isGT then best else w
      else if (Value.order w best).isLT then w else best) v

/-- Items without those that were there before. -/
def unique (seenAs : Value → Value) : (seen : List Value) → List Value → List Value
  | _, [] => []
  | seen, v :: more =>
    if seen.any fun w => (Value.order w (seenAs v)).isEq then unique seenAs seen more
    else v :: unique seenAs (seenAs v :: seen) more

/-- Rows of so many items, the last one filled up if there is something to fill it with; `n`
bounds how many there are. -/
def rows (count : Nat) (filler : Option Value) : Nat → List Value → List Value
  | 0, _ => []
  | n + 1, items =>
    if items.isEmpty then []
    else
      let row := items.take count
      let filling := filler.toList.flatMap fun v => List.replicate (count - row.length) v
      .list (row ++ filling) :: rows count filler n (items.drop count)

/-- So many columns of items that are as long as each other, but that the first ones have one
item more where the items do not come out even; the others are filled up if there is
something to fill them with. -/
def columns (count : Nat) (filler : Option Value) (items : List Value) : List Value :=
  let size := items.length / count
  let longer := items.length % count
  (List.range count).map fun i =>
    let start := i * size + min i longer
    let column := (items.drop start).take (if i < longer then size + 1 else size)
    .list (column ++ if i < longer then [] else filler.toList)

/-- The group of items that have something in common. -/
def group (common : Value) (items : List Value) : Value :=
  .record .group [(.ofText "grouper".toList, common), (.ofText "list".toList, .iterable items)]

/-- Groups of neighbours that have the same in common, behind one that is not finished. -/
def groups (cased : Bool) (key : Value → Value) (common : Value) (held : List Value) :
    List Value → List Value
  | [] => [group common held.reverse]
  | v :: more =>
    if (Value.orderCased cased common (key v)).isEq then
      groups cased key (key v) (v :: held) more
    else group common held.reverse :: groups cased key (key v) [v] more

/-- Groups of items that have the same in common. -/
def groupBy (cased : Bool) (key : Value → Value) (items : List Value) : List Value :=
  match sortBy cased key items with
  | [] => []
  | v :: more => groups cased key (key v) [v] more

/-- The sum of items, starting at zero; undefined ones are left out. -/
def sum (items : List Value) : Except Cause Value :=
  items.foldlM (fun total v => if v.isUndefined then .ok total else Operation.add total v) (.int 0)

/-- Lists of the items at one position, as far as all lists go; `n` bounds how far. -/
def zip (lists : List (List Value)) : Nat → List Value
  | 0 => []
  | n + 1 =>
    if lists.isEmpty || lists.any List.isEmpty then []
    else .list (lists.filterMap List.head?) :: zip (lists.map List.tail) n

end Items

end Componentry.Template
