import Componentry.Document.Reference

/-!
# Reading tags, comments and document types

Each reader starts behind the characters that tell what is coming and gives what it
read together with the rest.  A tag that the text ends in is no tag: it is dropped
with everything in it.
-/

namespace Componentry.Document

/-- Drops white space. -/
def skipSpace (s : Text) : Text := s.dropWhile isMarkupSpace

/-! ## Tags -/

/-- Adds an attribute unless there is one of the same name. -/
def addAttribute (attributes : List (Text × Text)) (name value : Text) : List (Text × Text) :=
  if attributes.any fun a => a.1 = name then attributes else attributes ++ [(name, value)]

/-- The value of an attribute as it is meant. -/
def attributeValue (s : Text) : Text := decode true (s.map readable)

/-- Reads the value of an attribute behind its name: none if there is no value, and
no result at all if the text ends. -/
def readValue (s : Text) : Option (Option Text × Text) :=
  match skipSpace s with
  | '=' :: t =>
    match skipSpace t with
    | [] => none
    | '"' :: t => (Text.cut? ['"'] t).map fun (value, rest) => (some (attributeValue value), rest)
    | '\'' :: t => (Text.cut? ['\''] t).map fun (value, rest) => (some (attributeValue value), rest)
    | '>' :: t => some (none, '>' :: t)
    | t =>
      let stops (c : Char) : Bool := isMarkupSpace c || c = '>'
      some (some (attributeValue (t.takeWhile (!stops ·))), t.dropWhile (!stops ·))
  | _ => some (none, s)

/-- Reads the attributes of a tag and its end.  The result says whether the tag
closes itself; `fuel` bounds the number of attributes. -/
def readAttributes : (fuel : Nat) → List (Text × Text) → Text →
    Option (List (Text × Text) × Bool × Text)
  | 0, _, _ => none
  | fuel + 1, attributes, s =>
    match skipSpace s with
    | [] => none
    | '>' :: rest => some (attributes, false, rest)
    | '/' :: '>' :: rest => some (attributes, true, rest)
    | '/' :: rest => readAttributes fuel attributes rest
    | c :: t =>
      let stops (c : Char) : Bool := isMarkupSpace c || c = '/' || c = '>' || c = '='
      let name := c :: t.takeWhile (!stops ·)
      match readValue (t.dropWhile (!stops ·)) with
      | none => none
      | some (value, rest) =>
        readAttributes fuel (addAttribute attributes (tagName name) (value.getD [])) rest

/-- Reads a tag that starts with its name. -/
def readTag (s : Text) : Option (StartTag × Text) :=
  let stops (c : Char) : Bool := isMarkupSpace c || c = '/' || c = '>'
  let name := tagName (s.takeWhile (!stops ·))
  (readAttributes (s.length + 1) [] (s.dropWhile (!stops ·))).map
    fun (attributes, selfClosing, rest) => (⟨name, attributes, selfClosing⟩, rest)

/-! ## Comments -/

/-- Where in a comment the reader is. -/
inductive CommentState where
  | start
  | startDash
  | inside
  | dash
  | dashDash
  | bang
deriving DecidableEq, Repr

namespace CommentState

/-- The state behind a character; none behind the end of the comment. -/
def next (state : CommentState) (c : Char) : Option CommentState :=
  match state, c with
  | start, '-' => some startDash
  | start, '>' => none
  | startDash, '-' => some dashDash
  | startDash, '>' => none
  | inside, '-' => some dash
  | dash, '-' => some dashDash
  | dashDash, '>' => none
  | dashDash, '!' => some bang
  | dashDash, '-' => some dashDash
  | bang, '-' => some dash
  | bang, '>' => none
  | _, _ => some inside

end CommentState

/-- Reads to the end of a comment.  The result holds the characters of the closing
delimiter as well. -/
def readComment : CommentState → Text → Text × Text
  | _, [] => ([], [])
  | state, c :: s =>
    match state.next c with
    | none => ([c], s)
    | some state =>
      let (contents, rest) := readComment state s
      (c :: contents, rest)

/-- Reads to the next `>`, which is dropped. -/
def readBogus (s : Text) : Text × Text :=
  match Text.cut? ['>'] s with
  | some (contents, rest) => (contents, rest)
  | none => (s, [])

/-! ## Document types -/

/-- Reads a quoted identifier: its text and what follows it; the rest behind the
whole document type if the identifier is cut short. -/
def readIdentifier (quote : Char) (s : Text) : Except Text (Text × Text) :=
  let inside := s.takeWhile fun c => c != quote && c != '>'
  match s.drop inside.length with
  | [] => .error []
  | c :: rest => if c = quote then .ok (inside.map readable, rest) else .error rest

/-- A document type that turns out malformed. -/
def Doctype.spoiled (type : Doctype) : Doctype := { type with faulty := true }

/-- A malformed document type, and what follows it. -/
def faultyDoctype (type : Doctype) (s : Text) : Doctype × Text := (type.spoiled, (readBogus s).2)

/-- Reads the end of a document type behind its identifiers. -/
def finishDoctype (type : Doctype) (s : Text) : Doctype × Text :=
  match skipSpace s with
  | [] => (type.spoiled, [])
  | '>' :: rest => (type, rest)
  | t => (type, (readBogus t).2)

/-- Reads the system identifier of a document type; `needed` says whether there has
to be one. -/
def readSystem (type : Doctype) (needed : Bool) (s : Text) : Doctype × Text :=
  match skipSpace s with
  | [] => (type.spoiled, [])
  | c :: t =>
    if c = '>' then (if needed then type.spoiled else type, t)
    else if c = '"' || c = '\'' then
      match readIdentifier c t with
      | .ok (id, rest) => finishDoctype { type with systemId := some id } rest
      | .error rest => (type.spoiled, rest)
    else faultyDoctype type (c :: t)

/-- Reads the public identifier of a document type and what follows it. -/
def readPublic (type : Doctype) (s : Text) : Doctype × Text :=
  match skipSpace s with
  | [] => (type.spoiled, [])
  | c :: t =>
    if c = '"' || c = '\'' then
      match readIdentifier c t with
      | .ok (id, rest) => readSystem { type with publicId := some id } false rest
      | .error rest => (type.spoiled, rest)
    else faultyDoctype type (c :: t)

/-- What follows a word in any case, if the text starts with it. -/
def dropWord? (word : String) (s : Text) : Option Text :=
  let head := s.take word.length
  if Text.asciiLower head = word.toList then some (s.drop word.length) else none

/-- Reads a document type behind its keyword. -/
def readDoctype (s : Text) : Doctype × Text :=
  match skipSpace s with
  | [] => (⟨none, none, none, true⟩, [])
  | '>' :: rest => (⟨none, none, none, true⟩, rest)
  | t =>
    let stops (c : Char) : Bool := isMarkupSpace c || c = '>'
    let type := Doctype.named (tagName (t.takeWhile (!stops ·)))
    match skipSpace (t.dropWhile (!stops ·)) with
    | [] => (type.spoiled, [])
    | '>' :: rest => (type, rest)
    | t =>
      match dropWord? "public" t, dropWord? "system" t with
      | some rest, _ => readPublic type rest
      | none, some rest => readSystem type true rest
      | none, none => faultyDoctype type t

end Componentry.Document
