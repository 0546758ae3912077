import Componentry.Document.Tag

/-!
# Cutting markup into tokens

How text is read depends on the element it stands in.  Most contents are markup;
some elements hold text up to their closing tag, with or without references; a
script may hide closing tags in comments; and behind `plaintext` everything is
text.
-/

namespace Componentry.Document

/-- How contents are read. -/
inductive ContentKind where
  | markup
  /-- Text with references up to the closing tag of this name. -/
  | escapable (name : Text)
  /-- Text up to the closing tag of this name. -/
  | raw (name : Text)
  /-- A script. -/
  | script
  /-- Text up to the end. -/
  | plain
deriving DecidableEq, Repr

/-- A source without a byte order mark and with line feeds for all line breaks. -/
def prepare (s : Text) : Text :=
  let rec breaks : Text → Text
    | [] => []
    | '\r' :: '\n' :: s => '\n' :: breaks s
    | '\r' :: s => '\n' :: breaks s
    | c :: s => c :: breaks s
  breaks (match s with
    | '\ufeff' :: t => t
    | _ => s)

/-! ## Text up to a closing tag -/

/-- Whether a text is the name of a tag with its end behind it. -/
def startsTagName (name s : Text) : Bool :=
  Text.asciiLower (s.take name.length) = name &&
    match s.drop name.length with
    | c :: _ => isMarkupSpace c || c = '/' || c = '>'
    | [] => false

/-- Whether a text starts with the closing tag of a name. -/
def startsClosing (name s : Text) : Bool :=
  match s with
  | '<' :: '/' :: t => startsTagName name t
  | _ => false

/-- The text before the closing tag of a name, and the closing tag with the
rest. -/
def cutClosing (name : Text) : Text → Text × Text
  | [] => ([], [])
  | c :: s =>
    if startsClosing name (c :: s) then ([], c :: s)
    else
      let (before, rest) := cutClosing name s
      (c :: before, rest)

/-- Where in a script the reader is.  Inside of a comment a closing tag counts,
but not if an opening tag of a script stands before it there. -/
inductive ScriptState where
  | code
  /-- In a comment, behind so many dashes. -/
  | comment (dashes : Nat)
  /-- In a script inside of a comment, behind so many dashes. -/
  | nested (dashes : Nat)
deriving DecidableEq, Repr

/-- The name of scripts. -/
def scriptName : Text := ['s', 'c', 'r', 'i', 'p', 't']

/-- The letters at the start of a text, if they are the name of scripts and a tag's
end stands behind them. -/
def scriptWord? (s : Text) : Bool := startsTagName scriptName s

namespace ScriptState

/-- The state behind a character inside of a comment. -/
def after (make : Nat → ScriptState) (dashes : Nat) (c : Char) : ScriptState :=
  if c = '-' then make (min 2 (dashes + 1))
  else if c = '>' && dashes = 2 then code
  else make 0

/-- The state behind the first character of a text. -/
def next (state : ScriptState) (c : Char) (s : Text) : ScriptState :=
  match state with
  | code => if c = '<' && Text.startsWith ['!', '-', '-'] s then comment 0 else code
  | comment dashes =>
    if c = '<' && scriptWord? s then nested 0 else after comment dashes c
  | nested dashes =>
    if c = '<' && Text.startsWith ['/'] s && scriptWord? (s.drop 1) then comment 0
    else after nested dashes c

end ScriptState

/-- The text of a script before its closing tag, and the closing tag with the
rest. -/
def cutScript : ScriptState → Text → Text × Text
  | _, [] => ([], [])
  | state, c :: s =>
    match state with
    | .nested _ =>
      let (before, rest) := cutScript (state.next c s) s
      (c :: before, rest)
    | _ =>
      if startsClosing scriptName (c :: s) then ([], c :: s)
      else
        let (before, rest) := cutScript (state.next c s) s
        (c :: before, rest)

/-! ## Markup -/

/-- Reads what a `<!` stands before.  Character data sections are known only inside
of foreign elements. -/
def readDeclaration (foreign : Bool) (s : Text) : List Token × Text :=
  match Text.dropPrefix? ['-', '-'] s with
  | some t =>
    let (contents, rest) := readComment .start t
    ([.comment contents], rest)
  | none =>
    match dropWord? "doctype" s with
    | some t =>
      let (type, rest) := readDoctype t
      ([.doctype type], rest)
    | none =>
      match (if foreign then Text.dropPrefix? "[CDATA[".toList s else none) with
      | some t =>
        let (contents, rest) := (Text.cut? "]]>".toList t).getD (t, [])
        (Token.ofText contents, rest)
      | none =>
        let (contents, rest) := readBogus s
        ([.comment contents], rest)

/-- Reads what a `<` stands before. -/
def readAngle (foreign : Bool) (s : Text) : List Token × Text :=
  match s with
  | '!' :: t => readDeclaration foreign t
  | '?' :: _ =>
    let (contents, rest) := readBogus s
    ([.comment contents], rest)
  | '/' :: t =>
    match t with
    | [] => ([.chars ['<', '/']], [])
    | '>' :: rest => ([], rest)
    | c :: _ =>
      if Text.isAsciiLetter c then
        match readTag t with
        | some (tag, rest) => ([.stop tag.name], rest)
        | none => ([], [])
      else
        let (contents, rest) := readBogus t
        ([.comment contents], rest)
  | c :: _ =>
    if Text.isAsciiLetter c then
      match readTag s with
      | some (tag, rest) => ([.start tag], rest)
      | none => ([], [])
    else ([.chars ['<']], s)
  | [] => ([.chars ['<']], [])

/-- Reads the next tokens of markup. -/
def readMarkup (foreign : Bool) (s : Text) : List Token × Text :=
  match s with
  | [] => ([], [])
  | '<' :: t => readAngle foreign t
  | '&' :: t =>
    match readReference false t with
    | some (value, rest) => (Token.ofText value, rest)
    | none => ([.chars ['&']], t)
  | _ =>
    let run := s.takeWhile fun c => c != '<' && c != '&'
    (Token.ofText run, s.drop run.length)

/-- Reads the next tokens of contents. -/
def readTokens (kind : ContentKind) (foreign : Bool) (s : Text) : List Token × Text :=
  let text (s : Text) : List Token := Token.ofText (s.map readable)
  let closing (rest : Text) : List Token × Text :=
    match rest with
    | [] => ([], [])
    | _ :: t => readAngle foreign t
  let upTo (parts : Text × Text) (shown : Text) : List Token × Text :=
    let (tokens, rest) := closing parts.2
    (text shown ++ tokens, rest)
  match kind with
  | .markup => readMarkup foreign s
  | .plain => (text s, [])
  | .raw name => upTo (cutClosing name s) (cutClosing name s).1
  | .escapable name => upTo (cutClosing name s) (decode false (cutClosing name s).1)
  | .script => upTo (cutScript .code s) (cutScript .code s).1

end Componentry.Document
