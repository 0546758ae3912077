import Componentry.Document.Builder.Formatting

/-!
# The start of a document and its head

The modes from the start of a document to the start of its body.  Elements that
were not written are added where a document must have them.
-/

namespace Componentry.Document.Build

/-- Adds the outermost element. -/
def createRoot (attributes : List (Text × Text)) : Build Unit := do
  let n ← createElement .html "html".toList attributes
  modify fun b => { b with draft := b.draft.append 0 n, opened := n :: b.opened }

/-- Takes a document type.  It counts only at the start of a document. -/
def takeDoctype (type : Doctype) : Build Unit := do
  if (← get).mode = .initial then
    modify fun b =>
      let (n, d) := b.draft.create
        (.doctype (type.name.getD []) (type.publicId.getD []) (type.systemId.getD []))
      { b with
        draft := d.append 0 n
        tablesInParagraphs := type.isOld
        mode := .beforeHtml }

/-- A token at the very start. -/
def initial (token : Token) : Build Next := do
  match token with
  | .space _ => return .done
  | .comment s =>
    insertCommentIn 0 s
    return .done
  | _ =>
    modify fun b => { b with tablesInParagraphs := true }
    return .again .beforeHtml token

/-- Whether a closing tag stands for the end of more than itself, so that it is not
dropped where nothing is open yet. -/
def closesDocument (name : Text) : Bool :=
  ["head", "body", "html", "br"].contains (String.ofList name)

/-- A token before the outermost element. -/
def beforeHtml (token : Token) : Build Next := do
  let otherwise : Build Next := do
    createRoot []
    return .again .beforeHead token
  match token with
  | .space _ => return .done
  | .comment s =>
    insertCommentIn 0 s
    return .done
  | .start tag =>
    if String.ofList tag.name = "html" then
      createRoot tag.attributes
      setMode .beforeHead
      return .done
    else otherwise
  | .stop name => if closesDocument name then otherwise else return .done
  | _ => otherwise

/-- A token before the head. -/
def beforeHead (token : Token) : Build Next := do
  let otherwise : Build Next := do
    let n ← insertImplied "head"
    modify fun b => { b with head := some n }
    return .again .inHead token
  match token with
  | .space _ => return .done
  | .comment s =>
    insertComment s
    return .done
  | .start tag =>
    match String.ofList tag.name with
    | "html" => return .under .inBody token
    | "head" =>
      let n ← insertTag tag
      modify fun b => { b with head := some n, mode := .inHead }
      return .done
    | _ => otherwise
  | .stop name => if closesDocument name then otherwise else return .done
  | _ => otherwise

/-- Opens a template. -/
def openTemplate (tag : StartTag) : Build Unit := do
  let _ ← insertTag tag
  pushMarker
  forbidFrameset
  modify fun b => { b with mode := .inTemplate, templateModes := .inTemplate :: b.templateModes }

/-- Closes a template with everything that is open in it. -/
def closeTemplate : Build Unit := do
  if (← get).isOpen "template" then
    closeImplied impliedEndInTables
    popNamed "template"
    clearToMarker
    modify fun b => { b with templateModes := b.templateModes.tail }
    modify fun b => { b with mode := b.properMode }

/-- A token in the head. -/
def inHead (token : Token) : Build Next := do
  let otherwise : Build Next := do
    pop
    return .again .afterHead token
  match token with
  | .space s =>
    insertText s
    return .done
  | .comment s =>
    insertComment s
    return .done
  | .start tag =>
    match String.ofList tag.name with
    | "html" => return .under .inBody token
    | "base" | "basefont" | "bgsound" | "link" | "meta" =>
      let _ ← insertClosed tag
      return .done
    | "title" =>
      insertTextElement tag (.escapable tag.name)
      return .done
    | "noframes" | "style" | "noscript" =>
      insertTextElement tag (.raw tag.name)
      return .done
    | "script" =>
      insertTextElement tag .script
      return .done
    | "template" =>
      openTemplate tag
      return .done
    | "head" => return .done
    | _ => otherwise
  | .stop name =>
    match String.ofList name with
    | "head" =>
      pop
      setMode .afterHead
      return .done
    | "body" | "html" | "br" => otherwise
    | "template" =>
      closeTemplate
      return .done
    | _ => return .done
  | _ => otherwise

/-- A token between the head and the body. -/
def afterHead (token : Token) : Build Next := do
  let otherwise : Build Next := do
    let _ ← insertImplied "body"
    return .again .inBody token
  match token with
  | .space s =>
    insertText s
    return .done
  | .comment s =>
    insertComment s
    return .done
  | .start tag =>
    match String.ofList tag.name with
    | "html" => return .under .inBody token
    | "body" =>
      let _ ← insertTag tag
      forbidFrameset
      setMode .inBody
      return .done
    | "frameset" =>
      let _ ← insertTag tag
      setMode .inFrameset
      return .done
    | "base" | "basefont" | "bgsound" | "link" | "meta" | "noframes" | "script" | "style"
    | "template" | "title" =>
      match (← get).head with
      | none => return .done
      | some head =>
        modify fun b => { b with opened := head :: b.opened }
        let next ← inHead token
        removeOpen head
        return next
    | "head" => return .done
    | _ => otherwise
  | .stop name =>
    match String.ofList name with
    | "template" => return .under .inHead token
    | "body" | "html" | "br" => otherwise
    | _ => return .done
  | _ => otherwise

end Componentry.Document.Build
