import Componentry.Template.Literal
import Componentry.Text.Search

/-!
# The lexer

A template's source is cut into **segments** (`lex`): runs of text, comments, raw
blocks and code blocks.  Every segment keeps the source it was cut from, and a
code block holds its tokens (`Segment.lexemes`); the parser reads the tokens of
all segments one after the other.

White-space control: a dash next to a delimiter drops the spaces of the text on
that side, a plus is ignored.  One line break at the very end of a source does
not count.

A fault of the lexer ends the tokens.  The parser meets it when it asks for the
next token, so that an earlier fault of the grammar wins.
-/

namespace Componentry.Template

/-- The number of line breaks in a text. -/
def lineBreaks (s : Text) : Nat := s.count '\n'

/-- What ends the tokens before the source does. -/
inductive LexFault where
  /-- Text that starts no token, noticed on a line. -/
  | invalid (line : Nat)
  /-- A string with a bad escape. -/
  | badEscape
deriving DecidableEq, Repr

/-! ## Tokens of code -/

/-- The symbols of two characters. -/
def doubleSymbol? (a b : Char) : Option Symbol :=
  if a = '/' && b = '/' then some .doubleSlash
  else if a = '*' && b = '*' then some .power
  else if a = '=' && b = '=' then some .equal
  else if a = '!' && b = '=' then some .notEqual
  else if a = '>' && b = '=' then some .greaterEqual
  else if a = '<' && b = '=' then some .lessEqual
  else none

/-- The symbols of one character. -/
def singleSymbol? (c : Char) : Option Symbol :=
  match c with
  | '+' => some .plus
  | '-' => some .minus
  | '*' => some .times
  | '/' => some .slash
  | '%' => some .percent
  | '.' => some .dot
  | ',' => some .comma
  | ':' => some .colon
  | '~' => some .tilde
  | '|' => some .pipe
  | '=' => some .assign
  | '>' => some .greater
  | '<' => some .less
  | '(' => some .openParen
  | ')' => some .closeParen
  | '[' => some .openBracket
  | ']' => some .closeBracket
  | '{' => some .openBrace
  | '}' => some .closeBrace
  | _ => none

/-- Whether a character may stand in an identifier. -/
def isIdentChar (c : Char) : Bool := Text.isAsciiLetter c || Text.isAsciiDigit c || c = '_'

/-- A token of code that starts with the given characters, and the rest.  The
fault's line is counted from `line`, on which the token starts. -/
def readToken (line : Nat) (c : Char) (s : Text) : Except LexFault (Token × Text) :=
  match s.head?.bind (doubleSymbol? c) with
  | some symbol => .ok (.symbol symbol, s.drop 1)
  | none =>
    match singleSymbol? c with
    | some symbol => .ok (.symbol symbol, s)
    | none =>
      if Block.isQuote c then
        match stringBody? c s with
        | none => .error (.invalid (line + lineBreaks s))
        | some (body, rest) =>
          match unescape body with
          | none => .error .badEscape
          | some value => .ok (.string value, rest)
      else if Text.isAsciiDigit c then
        match readNumber (c :: s) with
        | (some token, rest) => .ok (token, rest)
        | (none, _) => .error (.invalid line)
      else if isIdentStart c then
        .ok (.ident (c :: s.takeWhile isIdentChar), s.dropWhile isIdentChar)
      else .error (.invalid line)

theorem readToken_length {line : Nat} {c : Char} {s rest : Text} {token : Token}
    (h : readToken line c s = .ok (token, rest)) : rest.length ≤ s.length := by
  unfold readToken at h
  split at h
  · cases h
    simp
  · split at h
    · cases h
      exact Nat.le_refl _
    · split at h
      · split at h
        · cases h
        · rename_i hb
          split at h
          · cases h
          · cases h
            exact Nat.le_of_lt (stringBody?_length hb)
      · split at h
        · rename_i hd
          split at h
          · rename_i heq
            cases h
            have := readNumber_length (s := s) hd
            simp only [heq, List.length_cons] at this
            omega
          · cases h
        · split at h
          · cases h
            exact Text.dropWhile_length_le _ _
          · cases h

/-- The two kinds of blocks with code. -/
inductive CodeKind where
  | expression
  | statement
deriving DecidableEq, Repr

namespace CodeKind

/-- The kind of block as such. -/
def blockKind : CodeKind → BlockKind
  | expression => .expression
  | statement => .statement

/-- The token of the opening delimiter. -/
def start : CodeKind → Token
  | expression => .expressionStart
  | statement => .statementStart

/-- The token of the closing delimiter. -/
def stop : CodeKind → Token
  | expression => .expressionEnd
  | statement => .statementEnd

end CodeKind

/-- Reads the end of a block: whether the text behind it loses its leading
spaces, and the rest. -/
def codeEnd? (kind : CodeKind) (s : Text) : Option (Bool × Text) :=
  match s with
  | c :: t =>
    match (if c = '-' || c = '+' then Text.dropPrefix? [kind.blockKind.closeMark, '}'] t else none) with
    | some rest => some (c = '-', rest)
    | none => (Text.dropPrefix? [kind.blockKind.closeMark, '}'] s).map (false, ·)
  | [] => none

/-- How the tokens of a block end. -/
inductive CodeEnd where
  /-- With the closing delimiter: whether the text behind it loses its leading
  spaces, the line, and the rest. -/
  | closed (trim : Bool) (line : Nat) (rest : Text)
  /-- With the source. -/
  | unclosed
  /-- With a fault. -/
  | fault (f : LexFault)
deriving DecidableEq, Repr

/-- How many more brackets are open behind a token than before it. -/
def Token.opens : Token → Int
  | .symbol .openParen | .symbol .openBracket | .symbol .openBrace => 1
  | .symbol .closeParen | .symbol .closeBracket | .symbol .closeBrace => -1
  | _ => 0

/-- The tokens of a block up to and including its closing delimiter, which counts
only where all brackets are closed; `opened` of them are open. -/
def readCode (kind : CodeKind) (opened : Int) (line : Nat) (s : Text) : List Lexeme × CodeEnd :=
  match s with
  | [] => ([], .unclosed)
  | c :: t =>
    if Text.isBlank c then readCode kind opened (if c = '\n' then line + 1 else line) t
    else
      match (if opened = 0 then codeEnd? kind (c :: t) else none) with
      | some (trim, rest) => ([⟨kind.stop, line⟩], .closed trim line rest)
      | none =>
        match h : readToken line c t with
        | .error f => ([], .fault f)
        | .ok (token, rest) =>
          have : rest.length ≤ t.length := readToken_length h
          let line' := line + lineBreaks ((c :: t).take ((c :: t).length - rest.length))
          let (more, stop) := readCode kind (opened + token.opens) line' rest
          (⟨token, line⟩ :: more, stop)
termination_by s.length
decreasing_by all_goals (simp only [List.length_cons]; omega)

/-! ## Segments -/

/-- A piece of a template's source. -/
inductive Segment where
  /-- Text: its source, what white-space control leaves of it, and the line on
  which that starts. -/
  | data (source shown : Text) (line : Nat)
  /-- A comment. -/
  | comment (source : Text)
  /-- A raw block: its source, the text in it that is shown, and the line on
  which that starts. -/
  | raw (source shown : Text) (line : Nat)
  /-- A block with code, and its tokens. -/
  | code (kind : CodeKind) (source : Text) (lexemes : List Lexeme)
deriving DecidableEq, Repr

namespace Segment

/-- The source that a segment was cut from. -/
def source : Segment → Text
  | data source _ _ | comment source | raw source _ _ | code _ source _ => source

/-- The tokens of a segment. -/
def lexemes : Segment → List Lexeme
  | data _ shown line => if shown.isEmpty then [] else [⟨.data shown, line⟩]
  | comment _ => []
  | raw _ shown line => [⟨.data shown, line⟩]
  | code _ _ lexemes => lexemes

end Segment

/-- A template's source in segments, and what ended them early. -/
structure Lexed where
  segments : List Segment
  fault : Option LexFault
deriving DecidableEq, Repr

/-- The tokens of a template. -/
def Lexed.lexemes (l : Lexed) : List Lexeme := l.segments.flatMap Segment.lexemes

/-- Whether a text starts with the dash of white-space control. -/
def startsWithDash (s : Text) : Bool := s.head? = some '-'

/-- Drops the mark of white-space control that starts a text. -/
def dropControl : Text → Text
  | [] => []
  | c :: s => if c = '-' || c = '+' then s else c :: s

/-- Reads the rest of a tag that holds only a word, behind its opening delimiter:
whether the text behind it loses its leading spaces, and the rest. -/
def plainTag? (word s : Text) : Option (Bool × Text) := do
  let t ← Text.dropPrefix? word ((dropControl s).dropWhile Text.isBlank)
  let t := t.dropWhile Text.isBlank
  let rest ← Text.dropPrefix? ['%', '}'] (dropControl t)
  return (startsWithDash t, rest)

/-- Reads the tag that opens a raw block, behind its opening delimiter. -/
def rawOpening? (s : Text) : Option (Bool × Text) := plainTag? ['r', 'a', 'w'] s

/-- Reads a whole tag that ends a raw block: whether the text before it loses its
trailing spaces, and whether the text behind it loses its leading ones. -/
def rawClosing? (s : Text) : Option ((Bool × Bool) × Text) :=
  match s with
  | '{' :: '%' :: t =>
    (plainTag? ['e', 'n', 'd', 'r', 'a', 'w'] t).map fun (after, rest) =>
      ((startsWithDash t, after), rest)
  | _ => none

/-- What white-space control leaves of a text. -/
def trimBy (atStart atEnd : Bool) (s : Text) : Text :=
  let s := if atStart then Text.trimStart s else s
  if atEnd then Text.trimEnd s else s

/-- The segment of the text `s` before an opening delimiter or the end, which
starts on the given line. -/
def dataSegment (atStart atEnd : Bool) (line : Nat) (s : Text) : Segment :=
  let dropped := if atStart then s.takeWhile Text.isSpace else []
  .data s (trimBy atStart atEnd s) (line + lineBreaks dropped)

/-- The pattern of an opening delimiter. -/
def delimiter? (s : Text) : Option (BlockKind × Text) := Block.opening? s

theorem delimiter?_consumes : Text.Consumes delimiter? := by
  intro s kind rest h
  rw [Block.opening?_eq_some h]
  simp only [List.length_cons]
  omega

theorem dropControl_length (s : Text) : (dropControl s).length ≤ s.length := by
  unfold dropControl
  split
  · simp
  · split <;> simp

theorem plainTag?_length {word s rest : Text} {trim : Bool}
    (h : plainTag? word s = some (trim, rest)) : rest.length < s.length := by
  simp only [plainTag?, Option.bind_eq_bind, Option.bind_eq_some_iff, Option.pure_def,
    Option.some.injEq, Prod.mk.injEq] at h
  obtain ⟨t, ht, r, hr, -, rfl⟩ := h
  have h₁ := Text.dropPrefix?_length ht
  have h₂ := Text.dropPrefix?_length hr
  have h₃ := Text.dropWhile_length_le Text.isBlank (dropControl s)
  have h₄ := dropControl_length s
  have h₅ := dropControl_length (t.dropWhile Text.isBlank)
  have h₆ := Text.dropWhile_length_le Text.isBlank t
  simp only [List.length_cons, List.length_nil] at h₂
  omega

theorem rawClosing?_consumes : Text.Consumes rawClosing? := by
  intro s a rest h
  unfold rawClosing? at h
  split at h
  · simp only [Option.map_eq_some_iff, Prod.exists, Prod.mk.injEq] at h
    obtain ⟨x, y, hxy, -, rfl⟩ := h
    have := plainTag?_length hxy
    simp only [List.length_cons]
    omega
  · cases h

theorem codeEnd?_length {kind : CodeKind} {s rest : Text} {trim : Bool}
    (h : codeEnd? kind s = some (trim, rest)) : rest.length ≤ s.length := by
  unfold codeEnd? at h
  split at h
  · rename_i c t
    split at h
    · rename_i r hr
      cases h
      split at hr
      · have := Text.dropPrefix?_length hr
        simp only [List.length_cons] at *
        omega
      · cases hr
    · simp only [Option.map_eq_some_iff, Prod.mk.injEq] at h
      obtain ⟨r, hr, -, rfl⟩ := h
      have := Text.dropPrefix?_length hr
      simp only [List.length_cons] at *
      omega
  · cases h

theorem readCode_length {kind : CodeKind} {opened : Int} {line line' : Nat} {s rest : Text}
    {trim : Bool} {lexemes : List Lexeme}
    (h : readCode kind opened line s = (lexemes, .closed trim line' rest)) :
    rest.length ≤ s.length := by
  fun_induction readCode kind opened line s generalizing lexemes with
  | case1 => cases h
  | case2 =>
    rename_i ih
    have := ih h
    simp only [List.length_cons]
    omega
  | case3 =>
    rename_i hr
    cases h
    split at hr
    · exact codeEnd?_length hr
    · cases hr
  | case4 => cases h
  | case5 =>
    rename_i hlen _ _ _ hrec ih
    cases h
    have := ih hrec
    simp only [List.length_cons]
    omega

/-! ## Cutting a source -/

/-- How cutting goes on behind a segment. -/
inductive LexNext where
  /-- With more source: whether its first text loses its leading spaces, and the
  line on which it starts. -/
  | more (trim : Bool) (line : Nat) (rest : Text)
  /-- Not at all: the source has ended. -/
  | finished
  /-- Not at all: there is a fault. -/
  | fault (f : LexFault)
deriving DecidableEq, Repr

/-- The comment whose opening delimiter, on the given line, has been read. -/
def lexComment (line : Nat) (s : Text) : List Segment × LexNext :=
  match Text.cut? ['#', '}'] s with
  | none => ([], .fault (.invalid (line + lineBreaks s)))
  | some (inner, rest) =>
    ([.comment ('{' :: '#' :: inner ++ ['#', '}'])],
      .more (inner.getLast? = some '-') (line + lineBreaks inner) rest)

/-- The raw block whose opening tag, on the given line, reaches to `t` in the text
`s` behind its delimiter. -/
def lexRaw (line : Nat) (trimStart : Bool) (s t : Text) : List Segment × LexNext :=
  match Text.find? rawClosing? t with
  | none => ([], .fault (.invalid (line + lineBreaks s)))
  | some (inner, (trimEnd, trimAfter), rest) =>
    let start := line + lineBreaks (s.take (s.length - t.length))
    let source := s.take (s.length - rest.length)
    ([.raw ('{' :: '%' :: source) (trimBy trimStart trimEnd inner) start],
      .more trimAfter (line + lineBreaks source) rest)

/-- The code block whose opening delimiter, on the given line, has been read. -/
def lexCode (kind : CodeKind) (line : Nat) (s : Text) : List Segment × LexNext :=
  let segment (rest : Text) (lexemes : List Lexeme) : Segment :=
    .code kind ('{' :: kind.blockKind.mark :: s.take (s.length - rest.length))
      (⟨kind.start, line⟩ :: lexemes)
  match readCode kind 0 line (dropControl s) with
  | (lexemes, .closed trim line' rest) => ([segment rest lexemes], .more trim line' rest)
  | (lexemes, .unclosed) => ([segment [] lexemes], .finished)
  | (lexemes, .fault f) => ([segment [] lexemes], .fault f)

/-- The block whose opening delimiter, on the given line, has been read. -/
def lexBlock (kind : BlockKind) (line : Nat) (s : Text) : List Segment × LexNext :=
  match kind with
  | .comment => lexComment line s
  | .expression => lexCode .expression line s
  | .statement =>
    match rawOpening? s with
    | some (trimStart, t) => lexRaw line trimStart s t
    | none => lexCode .statement line s

/-- The text at the start of a source and the block behind it. -/
def lexStep (trim : Bool) (line : Nat) (s : Text) : List Segment × LexNext :=
  match Text.find? delimiter? s with
  | none => ([dataSegment trim false line s], .finished)
  | some (before, kind, t) =>
    let (block, next) := lexBlock kind (line + lineBreaks before) t
    (dataSegment trim (startsWithDash t) line before :: block, next)

theorem lexBlock_length {kind : BlockKind} {line line' : Nat} {s rest : Text} {trim : Bool}
    (h : (lexBlock kind line s).2 = .more trim line' rest) : rest.length ≤ s.length := by
  have hcode : ∀ kind, (lexCode kind line s).2 = .more trim line' rest →
      rest.length ≤ s.length := by
    intro kind h
    have hd := dropControl_length s
    unfold lexCode at h
    split at h
    · rename_i hr
      cases h
      have := readCode_length hr
      omega
    · cases h
    · cases h
  unfold lexBlock at h
  split at h
  · unfold lexComment at h
    split at h
    · cases h
    · rename_i hc
      cases h
      rw [Text.cut?_eq_some hc]
      simp only [List.length_append]
      omega
  · exact hcode _ h
  · split at h
    · rename_i hr
      have h₁ := plainTag?_length hr
      unfold lexRaw at h
      split at h
      · cases h
      · rename_i hf
        cases h
        have h₂ := Text.find?_length rawClosing?_consumes hf
        omega
    · exact hcode _ h

theorem lexStep_length {line line' : Nat} {s rest : Text} {trim trim' : Bool}
    (h : (lexStep trim line s).2 = .more trim' line' rest) : rest.length < s.length := by
  unfold lexStep at h
  split at h
  · cases h
  · rename_i hf
    have h₁ := Text.find?_length delimiter?_consumes hf
    have h₂ := lexBlock_length h
    omega

/-- Cuts a source into segments.  `trim` says whether the text that comes first
loses its leading spaces, and `line` is the line on which it starts. -/
def lexFrom (trim : Bool) (line : Nat) (s : Text) : Lexed :=
  match h : lexStep trim line s with
  | (segments, .more trim' line' rest) =>
    have : rest.length < s.length := lexStep_length (by rw [h])
    let l := lexFrom trim' line' rest
    { l with segments := segments ++ l.segments }
  | (segments, .finished) => ⟨segments, none⟩
  | (segments, .fault f) => ⟨segments, some f⟩
termination_by s.length

/-- A source without the line break at its end. -/
def dropFinalBreak (s : Text) : Text :=
  let s := if s.getLast? = some '\n' then s.dropLast else s
  if s.getLast? = some '\r' then s.dropLast else s

/-- Cuts the source of a template into segments. -/
def lex (source : Text) : Lexed := lexFrom false 1 (dropFinalBreak source)

/-- The tokens of a source that is one expression, and what ended them early. -/
def lexExpression (source : Text) : List Lexeme × Option LexFault :=
  match readCode .expression 0 1 (dropFinalBreak source) with
  | (lexemes, .fault f) => (lexemes, some f)
  | (lexemes, _) => (lexemes, none)

end Componentry.Template
