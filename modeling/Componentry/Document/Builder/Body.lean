import Componentry.Document.Builder.Foreign
import Componentry.Document.Builder.Head

/-!
# The body of a document

How the tokens of a body open and close elements.  Closing tags that match nothing
are dropped, and elements whose closing tags may be left out end where another
element requires it.
-/

namespace Componentry.Document.Build

/-- Blocks that end a paragraph. -/
def blockNames : List String :=
  ["address", "article", "aside", "blockquote", "center", "details", "dialog", "dir", "div", "dl",
    "fieldset", "figcaption", "figure", "footer", "header", "hgroup", "main", "menu", "nav", "ol",
    "p", "search", "section", "summary", "ul"]

/-- Blocks that their closing tags end together with all that is open in them. -/
def closableNames : List String :=
  ["address", "article", "aside", "blockquote", "button", "center", "details", "dialog", "dir",
    "div", "dl", "fieldset", "figcaption", "figure", "footer", "header", "hgroup", "listing",
    "main", "menu", "nav", "ol", "pre", "search", "section", "summary", "ul"]

/-- Formatting elements other than anchors and `nobr`. -/
def formattingNames : List String :=
  ["b", "big", "code", "em", "font", "i", "s", "small", "strike", "strong", "tt", "u"]

/-- Elements that belong to the head wherever they stand. -/
def headNames : List String :=
  ["base", "basefont", "bgsound", "link", "meta", "noframes", "script", "style", "template",
    "title"]

/-- Parts of tables and documents that mean nothing in a body. -/
def strayNames : List String :=
  ["caption", "col", "colgroup", "frame", "head", "tbody", "td", "tfoot", "th", "thead", "tr"]

/-- Whether a tag has an attribute `type` with the value `hidden`. -/
def isHidden (tag : StartTag) : Bool :=
  tag.attributes.any fun (name, value) =>
    name = "type".toList && Text.asciiLower value = "hidden".toList

/-- Adds and opens the element of a tag. -/
def openTag (tag : StartTag) : Build Next := do
  let _ ← insertTag tag
  return .done

/-- Adds and opens the element of a tag in the formatting of the place. -/
def openFormatted (tag : StartTag) : Build Next := do
  reconstruct
  openTag tag

/-- Adds the element of a tag without opening it. -/
def addTag (tag : StartTag) : Build Next := do
  let _ ← insertClosed tag
  return .done

/-- Closes the element that a list item or a term replaces: the innermost one of
these names that no block stands in. -/
def closeItem (names : List String) : Build Unit := do
  let b ← get
  let rec search : List Nat → Option String
    | [] => none
    | n :: outer =>
      match b.draft.element? n with
      | some (family, name) =>
        if family = .html && names.contains name then some name
        else if special family name && !htmlAmong ["address", "div", "p"] family name then none
        else search outer
      | none => search outer
  match search b.opened with
  | none => return ()
  | some name =>
    closeImpliedExcept name
    popNamed name

/-- Closes an element of the general scope with all that is open in it. -/
def closeScoped (name : String) : Build Unit := do
  if (← get).inScope generalScope name then
    closeImplied impliedEnd
    popNamed name

/-- Replaces the body by a frame set. -/
def replaceBody (tag : StartTag) : Build Unit := do
  let b ← get
  match b.body? with
  | none => return ()
  | some body =>
    if b.framesetOk then
      modify fun b => { b with
        draft := b.draft.detach body
        opened := b.opened.reverse.take 1
        mode := .inFrameset }
      let _ ← insertTag tag

/-- Opens a form unless one is open. -/
def openForm (tag : StartTag) : Build Unit := do
  let b ← get
  if b.form.isNone || b.isOpen "template" then
    closeOpenParagraph
    let n ← insertTag tag
    if !(← get).isOpen "template" then modify fun b => { b with form := some n }

/-- Closes the form.  Elements that are open in it stay open. -/
def closeForm : Build Unit := do
  let b ← get
  if b.isOpen "template" then
    if b.inScope generalScope "form" then
      closeImplied impliedEnd
      popNamed "form"
  else
    set { b with form := none }
    match b.form with
    | none => return ()
    | some n =>
      if b.hasInScope generalScope (· == n) then
        closeImplied impliedEnd
        removeOpen n

/-- Opens an element that goes with a ruby text. -/
def openRuby (tag : StartTag) (keep : Option String) : Build Next := do
  if (← get).inScope generalScope "ruby" then
    match keep with
    | some name => closeImpliedExcept name
    | none => closeImplied impliedEnd
  openTag tag

/-- An opening tag in the body. -/
def bodyStart (token : Token) (tag : StartTag) : Build Next := do
  let b ← get
  let name := String.ofList tag.name
  if name = "html" then
    if !b.isOpen "template" then
      modify fun b => { b with draft := b.draft.addAttributes b.root tag.attributes }
    return .done
  else if headNames.contains name then return .under .inHead token
  else if name = "body" then
    match b.body? with
    | some body =>
      if !b.isOpen "template" then
        forbidFrameset
        modify fun b => { b with draft := b.draft.addAttributes body tag.attributes }
      return .done
    | none => return .done
  else if name = "frameset" then
    replaceBody tag
    return .done
  else if blockNames.contains name then
    closeOpenParagraph
    openTag tag
  else if headings.contains name then
    closeOpenParagraph
    if (← get).currentIn (htmlAmong headings) then pop
    openTag tag
  else if name = "pre" || name = "listing" then
    closeOpenParagraph
    let _ ← insertTag tag
    modify fun b => { b with skipBreak := true }
    forbidFrameset
    return .done
  else if name = "form" then
    openForm tag
    return .done
  else if name = "li" || name = "dd" || name = "dt" then
    forbidFrameset
    closeItem (if name = "li" then ["li"] else ["dd", "dt"])
    closeOpenParagraph
    openTag tag
  else if name = "plaintext" then
    closeOpenParagraph
    let _ ← insertTag tag
    modify fun b => { b with contents := .plain }
    return .done
  else if name = "button" then
    closeScoped "button"
    reconstruct
    let _ ← insertTag tag
    forbidFrameset
    return .done
  else if name = "a" then
    closeAnchor
    reconstruct
    insertFormatting tag
    return .done
  else if formattingNames.contains name then
    reconstruct
    insertFormatting tag
    return .done
  else if name = "nobr" then
    reconstruct
    if (← get).inScope generalScope "nobr" then
      adopt "nobr"
      reconstruct
    insertFormatting tag
    return .done
  else if name = "applet" || name = "marquee" || name = "object" then
    reconstruct
    let _ ← insertTag tag
    pushMarker
    forbidFrameset
    return .done
  else if name = "table" then
    if !b.tablesInParagraphs then closeOpenParagraph
    let _ ← insertTag tag
    forbidFrameset
    setMode .inTable
    return .done
  else if ["area", "br", "embed", "img", "keygen", "wbr", "input"].contains name then
    reconstruct
    let _ ← insertClosed tag
    if !(name = "input" && isHidden tag) then forbidFrameset
    return .done
  else if name = "param" || name = "source" || name = "track" then addTag tag
  else if name = "hr" then
    closeOpenParagraph
    forbidFrameset
    addTag tag
  else if name = "image" then
    return .under .inBody (.start { tag with name := "img".toList })
  else if name = "textarea" then
    modify fun b => { b with skipBreak := true }
    forbidFrameset
    insertTextElement tag (.escapable tag.name)
    return .done
  else if name = "xmp" then
    closeOpenParagraph
    reconstruct
    forbidFrameset
    insertTextElement tag (.raw tag.name)
    return .done
  else if name = "iframe" then
    forbidFrameset
    insertTextElement tag (.raw tag.name)
    return .done
  else if name = "noembed" || name = "noscript" then
    insertTextElement tag (.raw tag.name)
    return .done
  else if name = "select" then
    reconstruct
    let _ ← insertTag tag
    forbidFrameset
    let inTable := [Mode.inTable, .inCaption, .inTableBody, .inRow, .inCell].contains b.mode
    setMode (if inTable then .inSelectInTable else .inSelect)
    return .done
  else if name = "optgroup" || name = "option" then
    if b.currentNamed "option" then pop
    openFormatted tag
  else if name = "rb" || name = "rtc" then openRuby tag none
  else if name = "rp" || name = "rt" then openRuby tag (some "rtc")
  else if name = "math" then
    reconstruct
    insertForeign .math tag
    return .done
  else if name = "svg" then
    reconstruct
    insertForeign .svg tag
    return .done
  else if strayNames.contains name then return .done
  else openFormatted tag

/-- A closing tag in the body. -/
def bodyStop (token : Token) (text : Text) : Build Next := do
  let b ← get
  let name := String.ofList text
  if name = "template" then return .under .inHead token
  else if name = "body" then
    if b.inScope generalScope "body" then setMode .afterBody
    return .done
  else if name = "html" then
    if b.inScope generalScope "body" then return .again .afterBody token else return .done
  else if closableNames.contains name then
    closeScoped name
    return .done
  else if name = "form" then
    closeForm
    return .done
  else if name = "p" then
    if !b.inScope buttonScope "p" then
      let _ ← insertImplied "p"
    closeParagraph
    return .done
  else if name = "li" then
    if b.inScope listScope "li" then
      closeImpliedExcept "li"
      popNamed "li"
    return .done
  else if name = "dd" || name = "dt" then
    if b.inScope generalScope name then
      closeImpliedExcept name
      popNamed name
    return .done
  else if headings.contains name then
    if b.hasInScope generalScope (b.isIn (htmlAmong headings)) then
      closeImplied impliedEnd
      popThrough (htmlAmong headings)
    return .done
  else if name = "a" || name = "nobr" || formattingNames.contains name then
    adopt name
    return .done
  else if name = "applet" || name = "marquee" || name = "object" then
    if b.inScope generalScope name then
      closeImplied impliedEnd
      popNamed name
      clearToMarker
    return .done
  else if name = "br" then return .under .inBody (.start (.plain text))
  else
    closeAny name
    return .done

/-- A token in the body. -/
def inBody (token : Token) : Build Next := do
  match token with
  | .null => return .done
  | .space s =>
    reconstruct
    insertText s
    return .done
  | .chars s =>
    reconstruct
    forbidFrameset
    insertText s
    return .done
  | .comment s =>
    insertComment s
    return .done
  | .start tag => bodyStart token tag
  | .stop name => bodyStop token name
  | .finish => if (← get).templateModes.isEmpty then return .done else return .under .inTemplate token
  | .doctype _ => return .done

/-- A token in an element that holds text only. -/
def inText (token : Token) : Build Next := do
  let leave : Build Unit := do
    pop
    modify fun b => { b with mode := b.returnMode, contents := .markup }
  match token with
  | .space s | .chars s =>
    insertText s
    return .done
  | .finish =>
    leave
    return .again (← get).mode token
  | .stop _ =>
    leave
    return .done
  | _ => return .done

end Componentry.Document.Build
