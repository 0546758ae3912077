import Componentry.Document.Builder.Formatting

/-!
# Formulas and drawings

Elements of formulas and drawings stand in families of their own.  Their names and
attributes are spelled in mixed case, attributes with a prefix lose it, and a tag
may close itself.  Ordinary elements that turn up inside end the formula or drawing.
-/

namespace Componentry.Document

/-- The names of drawings that are not spelled in lower case. -/
def mixedTagNames : List String :=
  ["altGlyph", "altGlyphDef", "altGlyphItem", "animateColor", "animateMotion", "animateTransform",
    "clipPath", "feBlend", "feColorMatrix", "feComponentTransfer", "feComposite",
    "feConvolveMatrix", "feDiffuseLighting", "feDisplacementMap", "feDistantLight", "feDropShadow",
    "feFlood", "feFuncA", "feFuncB", "feFuncG", "feFuncR", "feGaussianBlur", "feImage", "feMerge",
    "feMergeNode", "feMorphology", "feOffset", "fePointLight", "feSpecularLighting", "feSpotLight",
    "feTile", "feTurbulence", "foreignObject", "glyphRef", "linearGradient", "radialGradient",
    "textPath"]

/-- The attributes of drawings that are not spelled in lower case. -/
def mixedAttributeNames : List String :=
  ["attributeName", "attributeType", "baseFrequency", "baseProfile", "calcMode", "clipPathUnits",
    "diffuseConstant", "edgeMode", "filterUnits", "glyphRef", "gradientTransform", "gradientUnits",
    "kernelMatrix", "kernelUnitLength", "keyPoints", "keySplines", "keyTimes", "lengthAdjust",
    "limitingConeAngle", "markerHeight", "markerUnits", "markerWidth", "maskContentUnits",
    "maskUnits", "numOctaves", "pathLength", "patternContentUnits", "patternTransform",
    "patternUnits", "pointsAtX", "pointsAtY", "pointsAtZ", "preserveAlpha", "preserveAspectRatio",
    "primitiveUnits", "refX", "refY", "repeatCount", "repeatDur", "requiredExtensions",
    "requiredFeatures", "specularConstant", "specularExponent", "spreadMethod", "startOffset",
    "stdDeviation", "stitchTiles", "surfaceScale", "systemLanguage", "tableValues", "targetX",
    "targetY", "textLength", "viewBox", "viewTarget", "xChannelSelector", "yChannelSelector",
    "zoomAndPan"]

/-- The attributes that lose a prefix. -/
def prefixedAttributes : List (String × String) :=
  [("xlink:actuate", "actuate"), ("xlink:arcrole", "arcrole"), ("xlink:href", "href"),
    ("xlink:role", "role"), ("xlink:show", "show"), ("xlink:title", "title"),
    ("xlink:type", "type"), ("xml:lang", "lang"), ("xml:space", "space"), ("xmlns:xlink", "xlink")]

/-- A name in the spelling of a list. -/
def respell (names : List String) (name : Text) : Text :=
  ((names.find? fun n => Text.asciiLower n.toList = name).map String.toList).getD name

/-- The name of an attribute of a foreign element. -/
def foreignAttribute (family : Family) (name : Text) : Text :=
  let spelled := match family with
    | .html => name
    | .math => respell ["definitionURL"] name
    | .svg => respell mixedAttributeNames name
  match prefixedAttributes.find? fun (full, _) => full.toList = spelled with
  | some (_, short) => short.toList
  | none => spelled

/-- The tag of a foreign element in its proper spelling. -/
def foreignTag (family : Family) (tag : StartTag) : StartTag :=
  { tag with
    name := if family = .svg then respell mixedTagNames tag.name else tag.name
    attributes := tag.attributes.map fun (name, value) => (foreignAttribute family name, value) }

/-- Ordinary elements that end a formula or drawing. -/
def breakoutNames : List String :=
  ["b", "big", "blockquote", "body", "br", "center", "code", "dd", "div", "dl", "dt", "em", "embed",
    "h1", "h2", "h3", "h4", "h5", "h6", "head", "hr", "i", "img", "li", "listing", "menu", "meta",
    "nobr", "ol", "p", "pre", "ruby", "s", "small", "span", "strong", "strike", "sub", "sup",
    "table", "tt", "u", "ul", "var"]

namespace Builder

/-- Whether an element holds markup inside of a formula. -/
def isAnnotationPoint (b : Builder) (n : Nat) : Bool :=
  (b.draft.attributes n).any fun (name, value) =>
    name = "encoding".toList &&
      ["text/html", "application/xhtml+xml"].contains (String.ofList (Text.asciiLower value))

/-- Whether a token is dealt with as part of a formula or drawing. -/
def isForeign (b : Builder) (token : Token) : Bool :=
  match b.current?, b.current?.bind b.draft.element? with
  | some n, some (family, name) =>
    let isText := match token with
      | .space _ | .chars _ | .null => true
      | _ => false
    let start? := match token with
      | .start tag => some (String.ofList tag.name)
      | _ => none
    if family = .html || token = .finish then false
    else if mathTextPoint family name &&
        (isText || start?.any fun t => t != "mglyph" && t != "malignmark") then false
    else if svgMarkupPoint family name && (isText || start?.isSome) then false
    else if family = .math && name = "annotation-xml" && start? = some "svg" then false
    else if family = .math && name = "annotation-xml" && (isText || start?.isSome) then
      !b.isAnnotationPoint n
    else true
  | _, _ => false

/-- Whether the innermost open element is foreign. -/
def inForeign (b : Builder) : Bool :=
  match b.current?.bind b.draft.element? with
  | some (family, _) => family != .html
  | none => false

end Builder

namespace Build

/-- Adds a foreign element.  A tag that closes itself leaves it closed. -/
def insertForeign (family : Family) (tag : StartTag) : Build Unit := do
  let t := foreignTag family tag
  let _ ← insertElement family t.name t.attributes
  if tag.selfClosing then pop

/-- Whether a tag ends a formula or drawing. -/
def breaksOut (tag : StartTag) : Bool :=
  let name := String.ofList tag.name
  breakoutNames.contains name ||
    (name = "font" &&
      tag.attributes.any fun (a, _) => ["color", "face", "size"].contains (String.ofList a))

/-- Closes foreign elements up to one that holds ordinary elements. -/
def leaveForeign : Build Unit :=
  popUntilCurrent fun family name =>
    family = .html || mathTextPoint family name || svgMarkupPoint family name

/-- Closes a foreign element.  Behind the first element that does not match, an
ordinary element means that the tag is dealt with in the usual way. -/
def closeForeign (token : Token) (name : Text) : Build Next := do
  let b ← get
  let rec search (first : Bool) : List Nat → Option (Option Nat)
    | [] | [_] => none
    | n :: outer =>
      match b.draft.element? n with
      | some (family, other) =>
        if !first && family = .html then some none
        else if Text.asciiLower other.toList = name then some (some n)
        else search false outer
      | none => search false outer
  match search true b.opened with
  | none => return .done
  | some none => return .under b.mode token
  | some (some n) =>
    modify fun b => { b with opened := (b.opened.dropWhile (· != n)).tail }
    return .done

/-- A token inside of a formula or drawing. -/
def foreign (token : Token) : Build Next := do
  match token with
  | .null =>
    insertText [replacement]
    return .done
  | .space s =>
    insertText s
    return .done
  | .chars s =>
    forbidFrameset
    insertText s
    return .done
  | .comment s =>
    insertComment s
    return .done
  | .start tag =>
    if breaksOut tag then
      leaveForeign
      return .under (← get).mode token
    else
      let family := (((← get).current?.bind (← get).draft.element?).map Prod.fst).getD .html
      insertForeign family tag
      return .done
  | .stop name =>
    if ["br", "p"].contains (String.ofList name) then
      leaveForeign
      return .under (← get).mode token
    else closeForeign token name
  | _ => return .done

end Build

end Componentry.Document
