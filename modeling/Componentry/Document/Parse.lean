import Componentry.Document.Builder.Other

/-!
# Reading documents

`Node.parse` reads a text as a whole document.  Every text is one: what is missing
is added and what is misplaced is moved or dropped.  `normalize` is the canonical
text of the result; two texts are equivalent if they have the same.
-/

namespace Componentry

namespace Document

namespace Build

/-- Deals with a token until it is done; `fuel` bounds how often it is passed
on. -/
def process : (fuel : Nat) → Next → Build Unit
  | 0, _ => return ()
  | _, .done => modify fun b => { b with fostering := false }
  | fuel + 1, .under mode token => do
    process fuel (← step mode token)
  | fuel + 1, .again mode token => do
    modify fun b => { b with mode := mode, fostering := false }
    if (← get).isForeign token then process fuel (← foreign token)
    else process fuel (← step mode token)

/-- A token without the line break that is dropped at the start of some
elements. -/
def withoutBreak (token : Token) : Option Token :=
  match token with
  | .space ['\n'] => none
  | .space ('\n' :: s) => some (.space s)
  | _ => some token

/-- Takes a token. -/
def take (token : Token) : Build Unit := do
  let b ← get
  set { b with skipBreak := false }
  match token with
  | .doctype type => takeDoctype type
  | _ =>
    match (if b.skipBreak then withoutBreak token else some token) with
    | none => return ()
    | some token => process (4 * b.opened.length + 100) (.again b.mode token)

/-- Takes tokens one after the other. -/
def takeAll : List Token → Build Unit
  | [] => return ()
  | token :: more => do
    take token
    takeAll more

/-- Takes the tokens of a text to its end; `fuel` bounds the number of steps. -/
def readUpTo : (fuel : Nat) → Text → Build Unit
  | 0, _ => return ()
  | _, [] => return ()
  | fuel + 1, s => do
    let b ← get
    let (tokens, rest) := readTokens b.contents b.inForeign s
    takeAll tokens
    readUpTo fuel rest

/-- Reads a whole document. -/
def document (s : Text) : Build Unit := do
  readUpTo (s.length + 1) s
  take .finish

end Build

end Document

namespace Node

/-- The nodes of a document. -/
def parse (s : Text) : List Node :=
  ((Document.Build.document (Document.prepare s)).run .start).2.draft.toNodes

/-- Whether a text has an outermost element of its own, so that the elements around
the document are kept. -/
def hasOwnRoot (s : Text) : Bool := Text.occurs "<html".toList (Text.asciiLower s)

/-- The canonical form of markup. -/
def normalize (s : Text) : Text := writeAll (hasOwnRoot s) (parse s)

/-- The words that a reader sees of markup. -/
def textContent (s : Text) : Text := visibleText (parse s)

/-- Whether two texts are the same markup. -/
def equivalent (a b : Text) : Bool := normalize a = normalize b

end Node

end Componentry
