import Componentry.Document.Builder.Table

/-!
# Selections, templates, frame sets and the end

The remaining modes of building a document.
-/

namespace Componentry.Document.Build

/-- Closes the open selection. -/
def closeSelect : Build Unit := do
  popNamed "select"
  modify fun b => { b with mode := b.properMode }

/-- A token in a selection. -/
def inSelect (token : Token) : Build Next := do
  match token with
  | .space s | .chars s =>
    insertText s
    return .done
  | .comment s =>
    insertComment s
    return .done
  | .start tag =>
    match String.ofList tag.name with
    | "html" => return .under .inBody token
    | "option" =>
      if (← get).currentNamed "option" then pop
      openTag tag
    | "optgroup" =>
      if (← get).currentNamed "option" then pop
      if (← get).currentNamed "optgroup" then pop
      openTag tag
    | "hr" =>
      if (← get).currentNamed "option" then pop
      if (← get).currentNamed "optgroup" then pop
      addTag tag
    | "select" =>
      if (← get).inScope selectScope "select" then closeSelect
      return .done
    | "input" | "keygen" | "textarea" =>
      if (← get).inScope selectScope "select" then
        closeSelect
        return .again (← get).mode token
      else return .done
    | "script" | "template" => return .under .inHead token
    | _ => return .done
  | .stop name =>
    match String.ofList name with
    | "optgroup" =>
      let b ← get
      let inGroup := match b.opened with
        | n :: outer :: _ => b.isNamed "option" n && b.isNamed "optgroup" outer
        | _ => false
      if inGroup then pop
      if (← get).currentNamed "optgroup" then pop
      return .done
    | "option" =>
      if (← get).currentNamed "option" then pop
      return .done
    | "select" =>
      if (← get).inScope selectScope "select" then closeSelect
      return .done
    | "template" => return .under .inHead token
    | _ => return .done
  | .finish => return .under .inBody token
  | _ => return .done

/-- The parts of a table that end a selection in it. -/
def tableParts : List String :=
  ["caption", "table", "tbody", "tfoot", "thead", "tr", "td", "th"]

/-- A token in a selection inside of a table. -/
def inSelectInTable (token : Token) : Build Next := do
  match token with
  | .start tag =>
    if tableParts.contains (String.ofList tag.name) then
      closeSelect
      return .again (← get).mode token
    else return .under .inSelect token
  | .stop name =>
    if tableParts.contains (String.ofList name) then
      if (← get).inScope tableScope (String.ofList name) then
        closeSelect
        return .again (← get).mode token
      else return .done
    else return .under .inSelect token
  | _ => return .under .inSelect token

/-- A token in a template. -/
def inTemplate (token : Token) : Build Next := do
  let become (mode : Mode) : Build Next := do
    modify fun b => { b with templateModes := mode :: b.templateModes.tail }
    return .again mode token
  match token with
  | .null | .space _ | .chars _ | .comment _ => return .under .inBody token
  | .start tag =>
    match String.ofList tag.name with
    | "caption" | "colgroup" | "tbody" | "tfoot" | "thead" => become .inTable
    | "col" => become .inColumnGroup
    | "tr" => become .inTableBody
    | "td" | "th" => become .inRow
    | name => if headNames.contains name then return .under .inHead token else become .inBody
  | .stop name =>
    if String.ofList name = "template" then return .under .inHead token else return .done
  | .finish =>
    if (← get).isOpen "template" then
      popNamed "template"
      clearToMarker
      modify fun b => { b with templateModes := b.templateModes.tail }
      return .again (← get).properMode token
    else return .done
  | .doctype _ => return .done

/-- A token behind the body. -/
def afterBody (token : Token) : Build Next := do
  match token with
  | .space _ => return .under .inBody token
  | .comment s =>
    insertCommentIn (← get).root s
    return .done
  | .start tag =>
    if String.ofList tag.name = "html" then return .under .inBody token
    else return .again .inBody token
  | .stop name =>
    if String.ofList name = "html" then
      setMode .afterAfterBody
      return .done
    else return .again .inBody token
  | .finish => return .done
  | _ => return .again .inBody token

/-- A token in a frame set. -/
def inFrameset (token : Token) : Build Next := do
  match token with
  | .space s =>
    insertText s
    return .done
  | .comment s =>
    insertComment s
    return .done
  | .start tag =>
    match String.ofList tag.name with
    | "html" => return .under .inBody token
    | "frameset" => openTag tag
    | "frame" => addTag tag
    | "noframes" => return .under .inHead token
    | _ => return .done
  | .stop name =>
    if String.ofList name = "frameset" then
      if (← get).opened.length != 1 then
        pop
        if !(← get).currentNamed "frameset" then setMode .afterFrameset
    return .done
  | _ => return .done

/-- A token behind a frame set. -/
def afterFrameset (token : Token) : Build Next := do
  match token with
  | .space s =>
    insertText s
    return .done
  | .comment s =>
    insertComment s
    return .done
  | .start tag =>
    match String.ofList tag.name with
    | "html" => return .under .inBody token
    | "noframes" => return .under .inHead token
    | _ => return .done
  | .stop name =>
    if String.ofList name = "html" then setMode .afterAfterFrameset
    return .done
  | _ => return .done

/-- A token behind the outermost element. -/
def afterAfterBody (token : Token) : Build Next := do
  match token with
  | .space _ => return .under .inBody token
  | .comment s =>
    insertCommentIn 0 s
    return .done
  | .start tag =>
    if String.ofList tag.name = "html" then return .under .inBody token
    else return .again .inBody token
  | .finish => return .done
  | _ => return .again .inBody token

/-- A token behind the outermost element of a document with frames. -/
def afterAfterFrameset (token : Token) : Build Next := do
  match token with
  | .space _ => return .under .inBody token
  | .comment s =>
    insertCommentIn 0 s
    return .done
  | .start tag =>
    match String.ofList tag.name with
    | "html" => return .under .inBody token
    | "noframes" => return .under .inHead token
    | _ => return .done
  | _ => return .done

/-- Deals with a token by the rules of a mode. -/
def step : Mode → Token → Build Next
  | .initial => initial
  | .beforeHtml => beforeHtml
  | .beforeHead => beforeHead
  | .inHead => inHead
  | .afterHead => afterHead
  | .inBody => inBody
  | .inText => inText
  | .inTable => inTable
  | .inTableText => inTableText
  | .inCaption => inCaption
  | .inColumnGroup => inColumnGroup
  | .inTableBody => inTableBody
  | .inRow => inRow
  | .inCell => inCell
  | .inSelect => inSelect
  | .inSelectInTable => inSelectInTable
  | .inTemplate => inTemplate
  | .afterBody => afterBody
  | .inFrameset => inFrameset
  | .afterFrameset => afterFrameset
  | .afterAfterBody => afterAfterBody
  | .afterAfterFrameset => afterAfterFrameset

end Componentry.Document.Build
