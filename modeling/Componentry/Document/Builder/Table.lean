import Componentry.Document.Builder.Body

/-!
# Tables

The modes inside of a table.  The parts of a table are added where they were left
out, and everything that a table does not allow is placed before it: such a token is
dealt with by the rules of the body while `fostering` is on.
-/

namespace Componentry.Document.Build

/-- Deals with a token by the rules of the body, placing contents before the
table. -/
def foster (token : Token) : Build Next := do
  modify fun b => { b with fostering := true }
  return .under .inBody token

/-- Text in a table. -/
def tableText (token : Token) : Build Next := do
  let b ← get
  if b.currentIn fosterTargets then
    set { b with pending := [], returnMode := b.mode }
    return .again .inTableText token
  else foster token

/-- Closes the open table. -/
def closeTable : Build Unit := do
  popNamed "table"
  modify fun b => { b with mode := b.properMode }

/-- An opening tag in a table. -/
def tableStart (token : Token) (tag : StartTag) : Build Next := do
  match String.ofList tag.name with
  | "caption" =>
    popUntilCurrent tableScope
    pushMarker
    let _ ← insertTag tag
    setMode .inCaption
    return .done
  | "colgroup" =>
    popUntilCurrent tableScope
    let _ ← insertTag tag
    setMode .inColumnGroup
    return .done
  | "col" =>
    popUntilCurrent tableScope
    let _ ← insertImplied "colgroup"
    return .again .inColumnGroup token
  | "tbody" | "tfoot" | "thead" =>
    popUntilCurrent tableScope
    let _ ← insertTag tag
    setMode .inTableBody
    return .done
  | "td" | "th" | "tr" =>
    popUntilCurrent tableScope
    let _ ← insertImplied "tbody"
    return .again .inTableBody token
  | "table" =>
    if (← get).inScope tableScope "table" then
      closeTable
      return .again (← get).mode token
    else return .done
  | "style" | "script" | "template" => return .under .inHead token
  | "input" => if isHidden tag then addTag tag else foster token
  | "form" =>
    let b ← get
    if !b.isOpen "template" && b.form.isNone then
      let n ← insertClosed tag
      modify fun b => { b with form := some n }
    return .done
  | _ => foster token

/-- A token in a table. -/
def inTable (token : Token) : Build Next := do
  match token with
  | .null | .space _ | .chars _ => tableText token
  | .comment s =>
    insertComment s
    return .done
  | .start tag => tableStart token tag
  | .stop name =>
    match String.ofList name with
    | "table" =>
      if (← get).inScope tableScope "table" then closeTable
      return .done
    | "body" | "caption" | "col" | "colgroup" | "html" | "tbody" | "td" | "tfoot" | "th" | "thead"
    | "tr" => return .done
    | "template" => return .under .inHead token
    | _ => foster token
  | .finish => return .under .inBody token
  | .doctype _ => return .done

/-- Whether a token is text other than white space. -/
def isVisible : Token → Bool
  | .chars _ => true
  | _ => false

/-- Places text before the table by the rules of the body. -/
def fosterText : List Token → Build Unit
  | [] => return ()
  | token :: more => do
    modify fun b => { b with fostering := true }
    let _ ← inBody token
    modify fun b => { b with fostering := false }
    fosterText more

/-- Adds white space where it stands. -/
def keepSpace : List Token → Build Unit
  | [] => return ()
  | token :: more => do
    match token with
    | .space s => insertText s
    | _ => pure ()
    keepSpace more

/-- A token behind text in a table.  White space stays where it is; together with
other text it goes before the table. -/
def inTableText (token : Token) : Build Next := do
  match token with
  | .null => return .done
  | .space _ | .chars _ =>
    modify fun b => { b with pending := b.pending ++ [token] }
    return .done
  | _ =>
    let b ← get
    set { b with pending := [] }
    if b.pending.any isVisible then fosterText b.pending else keepSpace b.pending
    return .again b.returnMode token

/-- A token in a caption. -/
def inCaption (token : Token) : Build Next := do
  let close (next : Next) : Build Next := do
    if (← get).inScope tableScope "caption" then
      closeImplied impliedEnd
      popNamed "caption"
      clearToMarker
      setMode .inTable
      return next
    else return .done
  match token with
  | .start tag =>
    if ["caption", "col", "colgroup", "tbody", "td", "tfoot", "th", "thead", "tr"].contains
        (String.ofList tag.name) then close (.again .inTable token)
    else return .under .inBody token
  | .stop name =>
    match String.ofList name with
    | "caption" => close .done
    | "table" => close (.again .inTable token)
    | "body" | "col" | "colgroup" | "html" | "tbody" | "td" | "tfoot" | "th" | "thead" | "tr" =>
      return .done
    | _ => return .under .inBody token
  | _ => return .under .inBody token

/-- A token in a column group. -/
def inColumnGroup (token : Token) : Build Next := do
  let otherwise : Build Next := do
    if (← get).currentNamed "colgroup" then
      pop
      return .again .inTable token
    else return .done
  match token with
  | .space s =>
    insertText s
    return .done
  | .comment s =>
    insertComment s
    return .done
  | .start tag =>
    match String.ofList tag.name with
    | "html" => return .under .inBody token
    | "col" => addTag tag
    | "template" => return .under .inHead token
    | _ => otherwise
  | .stop name =>
    match String.ofList name with
    | "colgroup" =>
      if (← get).currentNamed "colgroup" then
        pop
        setMode .inTable
      return .done
    | "col" => return .done
    | "template" => return .under .inHead token
    | _ => otherwise
  | .finish => return .under .inBody token
  | _ => otherwise

/-- A token between the rows of a table. -/
def inTableBody (token : Token) : Build Next := do
  let leave : Build Next := do
    let b ← get
    if b.hasInScope tableScope (b.isIn (htmlAmong ["table", "tbody", "tfoot"])) then
      popUntilCurrent bodyContext
      pop
      return .again .inTable token
    else return .done
  match token with
  | .start tag =>
    match String.ofList tag.name with
    | "tr" =>
      popUntilCurrent bodyContext
      let _ ← insertTag tag
      setMode .inRow
      return .done
    | "th" | "td" =>
      popUntilCurrent bodyContext
      let _ ← insertImplied "tr"
      return .again .inRow token
    | "caption" | "col" | "colgroup" | "tbody" | "tfoot" | "thead" => leave
    | _ => return .under .inTable token
  | .stop name =>
    match String.ofList name with
    | "tbody" | "tfoot" | "thead" =>
      if (← get).inScope tableScope (String.ofList name) then
        popUntilCurrent bodyContext
        pop
        setMode .inTable
      return .done
    | "table" => leave
    | "body" | "caption" | "col" | "colgroup" | "html" | "td" | "th" | "tr" => return .done
    | _ => return .under .inTable token
  | _ => return .under .inTable token

/-- A token between the cells of a row. -/
def inRow (token : Token) : Build Next := do
  let leave (next : Next) : Build Next := do
    if (← get).inScope tableScope "tr" then
      popUntilCurrent rowContext
      pop
      setMode .inTableBody
      return next
    else return .done
  match token with
  | .start tag =>
    match String.ofList tag.name with
    | "th" | "td" =>
      popUntilCurrent rowContext
      let _ ← insertTag tag
      setMode .inCell
      pushMarker
      return .done
    | "caption" | "col" | "colgroup" | "tbody" | "tfoot" | "thead" | "tr" =>
      leave (.again .inTableBody token)
    | _ => return .under .inTable token
  | .stop name =>
    match String.ofList name with
    | "tr" => leave .done
    | "table" => leave (.again .inTableBody token)
    | "tbody" | "tfoot" | "thead" =>
      if (← get).inScope tableScope (String.ofList name) then leave (.again .inTableBody token)
      else return .done
    | "body" | "caption" | "col" | "colgroup" | "html" | "td" | "th" => return .done
    | _ => return .under .inTable token
  | _ => return .under .inTable token

/-- Closes the open cell. -/
def closeCell : Build Unit := do
  closeImplied impliedEnd
  popThrough (htmlAmong ["td", "th"])
  clearToMarker

/-- A token in a cell. -/
def inCell (token : Token) : Build Next := do
  match token with
  | .start tag =>
    if ["caption", "col", "colgroup", "tbody", "td", "tfoot", "th", "thead", "tr"].contains
        (String.ofList tag.name) then
      let b ← get
      if b.hasInScope tableScope (b.isIn (htmlAmong ["td", "th"])) then
        closeCell
        return .again .inRow token
      else return .done
    else return .under .inBody token
  | .stop name =>
    match String.ofList name with
    | "td" | "th" =>
      if (← get).inScope tableScope (String.ofList name) then
        closeImplied impliedEnd
        popNamed (String.ofList name)
        clearToMarker
        setMode .inRow
      return .done
    | "body" | "caption" | "col" | "colgroup" | "html" => return .done
    | "table" | "tbody" | "tfoot" | "thead" | "tr" =>
      if (← get).inScope tableScope (String.ofList name) then
        closeCell
        return .again .inRow token
      else return .done
    | _ => return .under .inBody token
  | _ => return .under .inBody token

end Componentry.Document.Build
