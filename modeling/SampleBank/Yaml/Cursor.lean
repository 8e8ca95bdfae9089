/-!
# Reading a YAML text

The text that is left to read, and where its first character stands: YAML gives meaning to
columns, and to being first on a line. `Cursor.skip` passes over blanks, line ends and comments
to the next token; `Cursor.restOfLine` does the same within a line. Both refuse the tabs and
the comments that YAML forbids.
-/

namespace SampleBank.Yaml

/-- A space or a tab. -/
def isBlank (c : Char) : Bool := c = ' ' || c = '\t'

/-- A blank or a line end. -/
def isSpace (c : Char) : Bool := isBlank c || c = '\n'

/-- The characters that flow collections are made of. -/
def isFlow (c : Char) : Bool := c = ',' || c = '[' || c = ']' || c = '{' || c = '}'

/-- Whether a text starts with a blank or a line end, or is at its end. -/
def startsBlank : List Char → Bool
  | [] => true
  | c :: _ => isSpace c

/-- Whether a text starts with a character of flow collections. -/
def startsFlow : List Char → Bool
  | [] => false
  | c :: _ => isFlow c

/-- The text that is left, and where it starts. -/
structure Cursor where
  rest : List Char
  line : Nat
  col : Nat
  /-- The number of characters before it. -/
  index : Nat
  /-- Whether only blanks stand before it on its line. -/
  lead : Bool
deriving DecidableEq

namespace Cursor

/-- The start of a text. -/
def ofText (cs : List Char) : Cursor := ⟨cs, 0, 0, 0, true⟩

/-- Passes over `n` blanks. -/
def blanks (n : Nat) (s : Cursor) : Cursor :=
  { s with rest := s.rest.drop n, col := s.col + n, index := s.index + n }

/-- Passes over `n` characters of a token. -/
def chars (n : Nat) (s : Cursor) : Cursor := { s.blanks n with lead := false }

/-- Passes over a line end. -/
def newline (s : Cursor) : Cursor := ⟨s.rest.drop 1, s.line + 1, 0, s.index + 1, true⟩

/-- Whether the text is at its end. -/
def atEnd (s : Cursor) : Bool := s.rest.isEmpty

/-- Whether the line is at its end. -/
def atLineEnd (s : Cursor) : Bool :=
  match s.rest with
  | [] => true
  | c :: _ => c = '\n'

/-- Whether a character stands here before a blank, a line end or the end. -/
def atIndicator (c : Char) (s : Cursor) : Bool :=
  match s.rest with
  | c' :: rest => c' = c && startsBlank rest
  | [] => false

/-- Whether the line is three times the given character and a blank or the line end. -/
def atMark (c : Char) (s : Cursor) : Bool :=
  match s.rest with
  | a :: b :: d :: rest => s.col = 0 && a = c && b = c && d = c && startsBlank rest
  | _ => false

/-- Whether a line stands here that starts or ends a document. -/
def atDocumentMark (s : Cursor) : Bool := s.atMark '-' || s.atMark '.'

/-- Whether no more of the document's nodes can start here: at the end, at a mark or at a
directive. -/
def atDocumentEnd (s : Cursor) : Bool :=
  s.atEnd || s.atDocumentMark || (s.col = 0 && s.rest.head? = some '%')

/-- Passes over the rest of a comment. -/
def comment (s : Cursor) : Cursor := s.blanks (s.rest.takeWhile (· ≠ '\n')).length

/-- Passes over blanks and a comment. A comment needs a blank before it. -/
def restOfLine (s : Cursor) : Option Cursor :=
  let n := (s.rest.takeWhile isBlank).length
  let t := s.blanks n
  if t.rest.head? = some '#' then
    if n = 0 then none else some t.comment
  else some t

/-- Passes over what stands before the next token. Among the first `indent` columns of a line a tab
may only stand on a line without content. -/
def skipWithin (indent : Nat) : Nat → Cursor → Option Cursor
  | 0, s => some s
  | fuel + 1, s =>
    match s.rest with
    | ' ' :: _ => skipWithin indent fuel (s.blanks 1)
    | '\n' :: _ => skipWithin indent fuel s.newline
    | '#' :: _ => skipWithin indent fuel s.comment
    | '\t' :: _ =>
      if s.lead ∧ s.col < indent then
        match s.restOfLine with
        | none => none
        | some s => if s.atLineEnd then skipWithin indent fuel s else none
      else skipWithin indent fuel (s.blanks 1)
    | _ => some s

@[inherit_doc skipWithin]
def skip (indent : Nat) (s : Cursor) : Option Cursor := skipWithin indent (s.rest.length + 1) s

end Cursor

end SampleBank.Yaml
