import Componentry.Document.Doctype

/-!
# Tokens of documents

Markup is cut into tokens: tags, comments, document types and text.  Text comes in
runs that are either all white space or free of it, since the two are treated
differently in many places; the null character stands apart.
-/

namespace Componentry.Document

/-- White space in markup.  A carriage return can only come from a reference. -/
def isMarkupSpace (c : Char) : Bool :=
  c = ' ' || c = '\t' || c = '\n' || c = '\x0c' || c = '\r'

/-- The character that stands for characters that cannot be shown. -/
def replacement : Char := '\ufffd'

/-- A null character is read as the replacement character. -/
def readable (c : Char) : Char := if c = '\x00' then replacement else c

/-- A name as tags and attributes have it: in lower case and without null
characters. -/
def tagName (s : Text) : Text := Text.asciiLower (s.map readable)

/-- An opening tag. -/
structure StartTag where
  name : Text
  attributes : List (Text × Text)
  selfClosing : Bool
deriving DecidableEq, Repr

/-- A token. -/
inductive Token where
  | doctype (type : Doctype)
  | start (tag : StartTag)
  | stop (name : Text)
  | comment (contents : Text)
  /-- A run of white space. -/
  | space (run : Text)
  /-- A run of characters that are not white space. -/
  | chars (run : Text)
  | null
  /-- The end of the document. -/
  | finish
deriving DecidableEq, Repr

/-- A tag that opens an element without attributes. -/
def StartTag.plain (name : Text) : StartTag := ⟨name, [], false⟩

namespace Token

/-- Puts a character in front of tokens of text. -/
def consChar (c : Char) (tokens : List Token) : List Token :=
  if c = '\x00' then null :: tokens
  else if isMarkupSpace c then
    match tokens with
    | space run :: more => space (c :: run) :: more
    | _ => space [c] :: tokens
  else
    match tokens with
    | chars run :: more => chars (c :: run) :: more
    | _ => chars [c] :: tokens

/-- The tokens of a text. -/
def ofText (s : Text) : List Token := s.foldr consChar []

end Token

end Componentry.Document
