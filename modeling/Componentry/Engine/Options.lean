import Componentry.Json.Skip

/-!
# Options

The options of an engine, and how they are read from JSON.  Fields may be left
out and unknown fields are skipped; the fields may also be given as a list in
their order.  Reading stops at the first fault: a value of the wrong type is told
from text that is no JSON and from text that ends too early.
-/

namespace Componentry

/-- The options of an engine. -/
structure Options where
  /-- Whether units are checked and the listing is reported. -/
  debug : Bool
  /-- The patterns of the file names that belong to a project. -/
  patterns : List Text
deriving DecidableEq, Repr

namespace Options

/-- The options if nothing else is said. -/
def default : Options := ⟨false, ["*.html".toList]⟩

/-- Why options cannot be read. -/
inductive Fault where
  /-- A value of the wrong type, or a field given twice. -/
  | wrongData
  /-- The text is no JSON. -/
  | malformed
  /-- The text ends too early. -/
  | unfinished
deriving DecidableEq, Repr

/-- A fault of JSON as a fault of options. -/
def Fault.ofJson : Json.Fault → Fault
  | .unfinished => .unfinished
  | .malformed => .malformed

/-- The result of reading JSON. -/
def ofJson {α : Type} (r : Except Json.Fault α) : Except Fault α := r.mapError Fault.ofJson

/-- The fault of a value of the wrong type.  A string, number or word is read to
its end first, and may be faulty itself. -/
def wrongType (s : Text) : Fault :=
  let after {α : Type} : Except Json.Fault α → Fault
    | .ok _ => .wrongData
    | .error fault => .ofJson fault
  match s with
  | [] => .unfinished
  | 'n' :: t => after (Json.expect ['u', 'l', 'l'] t)
  | 't' :: t => after (Json.expect ['r', 'u', 'e'] t)
  | 'f' :: t => after (Json.expect ['a', 'l', 's', 'e'] t)
  | '"' :: t => after (Json.readString t)
  | '[' :: _ | '{' :: _ => .wrongData
  | c :: t => if c = '-' || Text.isAsciiDigit c then after (Json.readNumber (c :: t)) else .malformed

/-- Reads a truth value. -/
def readBool (s : Text) : Except Fault (Bool × Text) :=
  match Json.skip s with
  | 't' :: t => (ofJson (Json.expect ['r', 'u', 'e'] t)).map (true, ·)
  | 'f' :: t => (ofJson (Json.expect ['a', 'l', 's', 'e'] t)).map (false, ·)
  | t => .error (wrongType t)

/-- Reads a text. -/
def readText (s : Text) : Except Fault (Text × Text) :=
  match Json.skip s with
  | '"' :: t => ofJson (Json.readString t)
  | t => .error (wrongType t)

/-- Reads the texts of a list up to its end; `fuel` bounds their number. -/
def readTexts : (fuel : Nat) → (first : Bool) → Text → Except Fault (List Text × Text)
  | 0, _, _ => .error .malformed
  | fuel + 1, first, s => do
    match ← ofJson (Json.nextItem ']' first s) with
    | .inr rest => return ([], rest)
    | .inl t =>
      let (text, t) ← readText t
      let (texts, rest) ← readTexts fuel false t
      return (text :: texts, rest)

/-- Reads a list of patterns. -/
def readPatterns (s : Text) : Except Fault (List Text × Text) :=
  match Json.skip s with
  | '[' :: t => readTexts (t.length + 1) true t
  | t => .error (wrongType t)

/-- The options given so far. -/
structure Given where
  debug : Option Bool
  patterns : Option (List Text)
deriving DecidableEq, Repr

/-- The options, with defaults for what is not given. -/
def Given.toOptions (g : Given) : Options :=
  ⟨g.debug.getD default.debug, g.patterns.getD default.patterns⟩

/-- Reads one field whose name has been read.  A field may be given once; the
value of an unknown field is skipped. -/
def readField (g : Given) (name s : Text) : Except Fault (Given × Text) :=
  if name = "debug".toList then
    if g.debug.isSome then .error .wrongData
    else do
      let (b, rest) ← readBool (← ofJson (Json.readColon s))
      return ({ g with debug := some b }, rest)
  else if name = "patterns".toList then
    if g.patterns.isSome then .error .wrongData
    else do
      let (patterns, rest) ← readPatterns (← ofJson (Json.readColon s))
      return ({ g with patterns := some patterns }, rest)
  else do
    let t ← ofJson (Json.readColon s)
    return (g, ← ofJson (Json.skipOne t))

/-- Reads the fields of an object up to its end; `fuel` bounds their number. -/
def readFields : (fuel : Nat) → (first : Bool) → Given → Text → Except Fault (Given × Text)
  | 0, _, _, _ => .error .malformed
  | fuel + 1, first, g, s => do
    match ← ofJson (Json.nextItem '}' first s) with
    | .inr rest => return (g, rest)
    | .inl t =>
      let t ← ofJson (Json.expect ['"'] t)
      let (name, t) ← ofJson (Json.readString t)
      let (g, t) ← readField g name t
      readFields fuel false g t

/-- The end of a list that has all its items. -/
def readListEnd (s : Text) : Except Fault Text :=
  match Json.skip s with
  | [] => .error .unfinished
  | ']' :: rest => .ok rest
  | _ => .error .malformed

/-- Reads the fields as a list, in their order. -/
def readInOrder (s : Text) : Except Fault (Given × Text) := do
  match ← ofJson (Json.nextItem ']' true s) with
  | .inr rest => return (⟨none, none⟩, rest)
  | .inl t =>
    let (debug, t) ← readBool t
    match ← ofJson (Json.nextItem ']' false t) with
    | .inr rest => return (⟨some debug, none⟩, rest)
    | .inl t =>
      let (patterns, t) ← readPatterns t
      return (⟨some debug, some patterns⟩, ← readListEnd t)

/-- Reads options off the start of a text. -/
def readGiven (s : Text) : Except Fault (Given × Text) :=
  match Json.skip s with
  | '{' :: t => readFields (t.length + 1) true ⟨none, none⟩ t
  | '[' :: t => readInOrder t
  | t => .error (wrongType t)

/-- Reads a text that holds options. -/
def parse (s : Text) : Except Fault Options := do
  let (g, rest) ← readGiven s
  if (Json.skip rest).isEmpty then return g.toOptions else .error .malformed

end Options

end Componentry
