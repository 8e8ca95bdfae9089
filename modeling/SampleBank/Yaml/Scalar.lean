import SampleBank.Text.Number
import SampleBank.Yaml.Cursor

/-!
# YAML scalars

The three ways to write a text: plain, in quotes, or as a block of lines. Line ends inside plain
and quoted scalars are folded (`fold`): one becomes a space, and of several one is dropped. A
block keeps its lines (`|`) or folds them (`>`).
-/

namespace SampleBank.Yaml

/-- What blanks and line ends inside a scalar stand for. Blanks count only within a line; of the
line ends the first becomes a space, or nothing if it is `escaped` or others follow. -/
def fold (escaped : Bool) (breaks : Nat) (blanks : List Char) : List Char :=
  if escaped then List.replicate breaks '\n'
  else
    match breaks with
    | 0 => blanks
    | 1 => [' ']
    | n + 2 => List.replicate (n + 1) '\n'

/-! ### Plain scalars -/

/-- Whether a plain scalar ends before a character other than a blank: at a colon that is an
indicator, and in a flow collection at its characters. -/
def plainEnds (flow : Bool) : List Char → Bool
  | [] => true
  | c :: rest =>
    (c = ':' && (startsBlank rest || (flow && startsFlow rest))) || (flow && isFlow c)

/-- The length of the next word of a plain scalar. -/
def plainWord (flow : Bool) : List Char → Nat
  | [] => 0
  | c :: rest =>
    if isSpace c || plainEnds flow (c :: rest) then 0 else plainWord flow rest + 1

/-- Passes over blanks and line ends inside a plain scalar; counts line ends and keeps the blanks
before them. Among the first `indent` columns of a line a tab may only stand on a line without
content. -/
def plainGap (indent : Nat) : Nat → Nat → List Char → Cursor → Option (List Char × Cursor)
  | 0, breaks, blanks, s => some (fold false breaks blanks.reverse, s)
  | fuel + 1, breaks, blanks, s =>
    match s.rest with
    | '\n' :: _ => plainGap indent fuel (breaks + 1) blanks s.newline
    | c :: _ =>
      if isBlank c then
        if breaks = 0 then plainGap indent fuel breaks (c :: blanks) (s.blanks 1)
        else if c = '\t' ∧ s.col < indent then
          match s.restOfLine with
          | none => none
          | some s => if s.atLineEnd then plainGap indent fuel breaks blanks s else none
        else plainGap indent fuel breaks blanks (s.blanks 1)
      else some (fold false breaks blanks.reverse, s)
    | [] => some (fold false breaks blanks.reverse, s)

/-- Whether a hyphen stands before a character of flow collections, where no word may start. -/
def atLoneHyphen : List Char → Bool
  | '-' :: rest => startsFlow rest
  | _ => false

/-- The words of a plain scalar behind its first one. They end with less indentation than `indent`
(outside of flow collections), before a comment and at a document mark. -/
def plainWords (flow : Bool) (indent : Nat) : Nat → Cursor → Option (List Char × Cursor)
  | 0, s => some ([], s)
  | fuel + 1, s =>
    if s.atEnd || !startsBlank s.rest then some ([], s)
    else
      match plainGap indent (s.rest.length + 1) 0 [] s with
      | none => none
      | some (gap, s) =>
        if (!flow && s.col < indent) || s.atDocumentMark || s.rest.head? = some '#' then
          some ([], s)
        else if flow && atLoneHyphen s.rest then none
        else
          match plainWord flow s.rest with
          | 0 => some ([], s)
          | n + 1 =>
            match plainWords flow indent fuel (s.chars (n + 1)) with
            | none => none
            | some (more, t) => some (gap ++ s.rest.take (n + 1) ++ more, t)

/-- A plain scalar. In a flow collection it may not start before column `indent`. -/
def plainScalar (flow : Bool) (indent : Nat) (s : Cursor) : Option (List Char × Cursor) :=
  if flow && (s.col < indent || atLoneHyphen s.rest) then none
  else
    let n := plainWord flow s.rest
    match plainWords flow indent (s.rest.length + 1) (s.chars n) with
    | none => none
    | some (more, t) => some (s.rest.take n ++ more, t)

/-! ### Quoted scalars -/

/-- The character that a letter behind a backslash stands for. -/
def escape? : Char → Option Char
  | '0' => some '\x00'
  | 'a' => some '\x07'
  | 'b' => some '\x08'
  | 't' | '\t' => some '\t'
  | 'n' => some '\n'
  | 'v' => some '\x0b'
  | 'f' => some '\x0c'
  | 'r' => some '\r'
  | 'e' => some '\x1b'
  | ' ' => some ' '
  | '"' => some '"'
  | '/' => some '/'
  | '\\' => some '\\'
  | 'N' => some '\u0085'
  | '_' => some '\u00a0'
  | 'L' => some '\u2028'
  | 'P' => some '\u2029'
  | _ => none

/-- How many hexadecimal digits follow a letter behind a backslash. -/
def escapeLength? : Char → Option Nat
  | 'x' => some 2
  | 'u' => some 4
  | 'U' => some 8
  | _ => none

/-- The character with a code point, if there is one. -/
def charAt? (n : Nat) : Option Char :=
  if n.isValidChar then some (Char.ofNat n) else none

/-- What stands behind a backslash: the character it stands for and how many characters it takes. -/
def escapeSequence? : List Char → Option (Char × Nat)
  | [] => none
  | c :: rest =>
    match escapeLength? c with
    | none => (escape? c).map (·, 1)
    | some n =>
      if rest.length < n then none
      else ((Numeral.natural? 16 (rest.take n)).bind charAt?).map (·, n + 1)

/-- How far a quoted scalar was read up to the next blank, line end or closing quote. -/
structure QuotedPart where
  text : List Char
  after : Cursor
  /-- The part ends with an escaped line end. -/
  escaped : Bool

/-- Reads a quoted scalar up to the next blank, line end or closing quote. In single quotes only a
doubled quote has a meaning of its own. -/
def quotedPart (quote : Char) : Nat → Cursor → Option QuotedPart
  | 0, s => some ⟨[], s, false⟩
  | fuel + 1, s =>
    match s.rest with
    | [] => some ⟨[], s, false⟩
    | c :: rest =>
      let more (taken : Char) (n : Nat) : Option QuotedPart :=
        match quotedPart quote fuel (s.chars n) with
        | none => none
        | some part => some { part with text := taken :: part.text }
      if isSpace c then some ⟨[], s, false⟩
      else if c = quote then
        if quote = '\'' ∧ rest.head? = some '\'' then more '\'' 2 else some ⟨[], s, false⟩
      else if c = '\\' ∧ quote = '"' then
        if rest.head? = some '\n' then some ⟨[], (s.chars 1).newline, true⟩
        else
          match escapeSequence? rest with
          | none => none
          | some (e, n) => more e (n + 1)
      else more c 1

/-- Passes over blanks and line ends inside a quoted scalar. Among the first `bound` columns of a
line there may be no tab. -/
def quotedGap (bound : Nat) (escaped : Bool) :
    Nat → Nat → List Char → Cursor → Option (List Char × Cursor)
  | 0, breaks, blanks, s => some (fold escaped breaks blanks.reverse, s)
  | fuel + 1, breaks, blanks, s =>
    match s.rest with
    | '\n' :: _ => quotedGap bound escaped fuel (breaks + 1) blanks s.newline
    | c :: _ =>
      if isBlank c then
        if breaks = 0 ∧ escaped = false then
          quotedGap bound escaped fuel breaks (c :: blanks) (s.blanks 1)
        else if c = '\t' ∧ s.col < bound then none
        else quotedGap bound escaped fuel breaks blanks (s.blanks 1)
      else some (fold escaped breaks blanks.reverse, s)
    | [] => some (fold escaped breaks blanks.reverse, s)

/-- The inside of a quoted scalar and its closing quote. No line of it may start before column
`bound`, nor with a document mark. -/
def quotedInside (quote : Char) (bound : Nat) : Nat → Cursor → Option (List Char × Cursor)
  | 0, _ => none
  | fuel + 1, s =>
    if s.atDocumentMark || s.atEnd || s.col < bound then none
    else
      match quotedPart quote (s.rest.length + 1) s with
      | none => none
      | some part =>
        if part.after.rest.head? = some quote then some (part.text, part.after.chars 1)
        else
          match quotedGap bound part.escaped (part.after.rest.length + 1) 0 [] part.after with
          | none => none
          | some (gap, s) =>
            match quotedInside quote bound fuel s with
            | none => none
            | some (more, s) => some (part.text ++ gap ++ more, s)

/-- Whether something may stand behind a quoted scalar: the line's end, a colon, and in a flow
collection its characters. Outside of flow collections a scalar before a colon has one line. -/
def endsQuoted (flow : Bool) (line : Nat) (s : Cursor) : Bool :=
  match s.rest with
  | [] => true
  | c :: _ =>
    c = '\n' || (c = ':' && (flow || line = s.line)) ||
      (flow && (c = ',' || c = '}' || c = ']'))

/-- A quoted scalar with the blanks and the comment behind it. -/
def quotedScalar (flow : Bool) (quote : Char) (bound : Nat) (s : Cursor) :
    Option (List Char × Cursor) :=
  match quotedInside quote bound (s.rest.length + 1) (s.chars 1) with
  | none => none
  | some (text, t) =>
    match t.restOfLine with
    | none => none
    | some t => if endsQuoted flow s.line t then some (text, t) else none

/-! ### Block scalars -/

/-- What becomes of the line ends at the end of a block: none is left, one, or all. -/
inductive Chomping
  | strip
  | clip
  | keep
deriving DecidableEq

/-- The indicators behind `|` or `>`: chomping and additional indentation, in either order. -/
def blockHeader? (s : Cursor) : Option (Chomping × Nat × Cursor) :=
  let chomping? (s : Cursor) : Option (Chomping × Cursor) :=
    match s.rest with
    | '+' :: _ => some (.keep, s.chars 1)
    | '-' :: _ => some (.strip, s.chars 1)
    | _ => none
  let increment? (s : Cursor) : Option (Nat × Cursor) :=
    match s.rest with
    | c :: _ =>
      if Numeral.isDigit c then
        if c = '0' then none else some (c.toNat - '0'.toNat, s.chars 1)
      else some (0, s)
    | [] => some (0, s)
  match chomping? s with
  | some (chomping, s) => (increment? s).map fun (n, s) => (chomping, n, s)
  | none =>
    match increment? s with
    | none => none
    | some (n, s) =>
      match if n = 0 then none else chomping? s with
      | some (chomping, s) => some (chomping, n, s)
      | none => some (.clip, n, s)

/-- Passes over up to `indent` spaces of each line, and over the lines without content; counts the
latter. -/
def blockIndent (indent : Nat) : Nat → Nat → Cursor → Nat × Cursor
  | 0, breaks, s => (breaks, s)
  | fuel + 1, breaks, s =>
    let n := min (s.rest.takeWhile (· = ' ')).length (indent - s.col)
    let s := s.blanks n
    if s.rest.head? = some '\n' then blockIndent indent fuel (breaks + 1) s.newline
    else (breaks, s)

/-- Passes over the lines without content before a block whose indentation is not given; counts them
and finds the widest indentation. -/
def blockStart : Nat → Nat → Nat → Cursor → Nat × Nat × Cursor
  | 0, breaks, widest, s => (breaks, widest, s)
  | fuel + 1, breaks, widest, s =>
    let s := s.blanks (s.rest.takeWhile (· = ' ')).length
    let widest := max widest s.col
    if s.rest.head? = some '\n' then blockStart fuel (breaks + 1) widest s.newline
    else (breaks, widest, s)

/-- What separates two lines of a block, with `breaks` empty lines between them. Folding joins lines
that do not start with a blank. -/
def blockJoint (literal : Bool) (firstBlank secondBlank : Bool) (breaks : Nat) : List Char :=
  if literal || firstBlank || secondBlank then List.replicate (breaks + 1) '\n'
  else if breaks = 0 then [' ']
  else List.replicate breaks '\n'

/-- Whether a text starts with a space or a tab. -/
def startsWithBlank : List Char → Bool
  | [] => false
  | c :: _ => isBlank c

/-- The lines of a block: `before` is what separates the first one from what stands before. -/
def blockLines (literal : Bool) (chomping : Chomping) (indent : Nat) :
    Nat → (Bool → List Char) → Cursor → List Char × Cursor
  | 0, _, s => ([], s)
  | fuel + 1, before, s =>
    let line := s.rest.takeWhile (· ≠ '\n')
    let t := s.chars line.length
    let text := before (startsWithBlank line) ++ line
    if t.atEnd then (text ++ if chomping = .strip then [] else ['\n'], t)
    else
      let (breaks, t) := blockIndent indent (t.rest.length + 1) 0 t.newline
      if t.col = indent ∧ t.atEnd = false ∧ ¬ (indent = 0 ∧ t.atMark '.') then
        let (more, t) :=
          blockLines literal chomping indent fuel
            (fun blank => blockJoint literal (startsWithBlank line) blank breaks) t
        (text ++ more, t)
      else
        let last := if t.atEnd ∧ max indent 1 ≤ t.col then ['\n'] else []
        let tail := match chomping with
          | .strip => []
          | .clip => '\n' :: last
          | .keep => '\n' :: last ++ List.replicate breaks '\n'
        (text ++ tail, t)

/-- The content of a block from its first line on, `breaks` empty lines having been passed over. -/
def blockContent (literal : Bool) (chomping : Chomping) (indent breaks : Nat) (s : Cursor) :
    List Char × Cursor :=
  if s.col = indent ∧ ¬ (indent = 0 ∧ s.atMark '.') then
    blockLines literal chomping indent (s.rest.length + 1)
      (fun _ => List.replicate breaks '\n') s
  else (if chomping = .keep then List.replicate breaks '\n' else [], s)

/-- A block whose text ends before its first line with content. -/
def emptyBlock (chomping : Chomping) (breaks : Nat) : List Char :=
  match chomping with
  | .strip => []
  | .clip => ['\n']
  | .keep => if breaks = 0 then ['\n'] else List.replicate breaks '\n'

/-- A block scalar among nodes of at least `indent` columns. Its lines are indented as its header
says, or as its first line with content is. -/
def blockScalar (indent : Nat) (s : Cursor) : Option (List Char × Cursor) :=
  let literal := s.rest.head? = some '|'
  match blockHeader? (s.chars 1) with
  | none => none
  | some (chomping, increment, s) =>
    match s.restOfLine with
    | none => none
    | some s =>
      if s.atEnd then some ([], s)
      else if s.rest.head? ≠ some '\n' then none
      else
        let s := s.newline
        if s.rest.head? = some '\t' then none
        else
          let fuel := s.rest.length + 1
          let (breaks, depth, s) :=
            if increment = 0 then
              let (breaks, widest, s) := blockStart fuel 0 0 s
              (breaks, max widest indent, s)
            else
              let depth := indent - 1 + increment
              let (breaks, s) := blockIndent depth fuel 0 s
              (breaks, depth, s)
          if s.atEnd then some (emptyBlock chomping breaks, s)
          else if s.col < depth ∧ indent ≤ s.col then none
          else some (blockContent literal chomping depth breaks s)

end SampleBank.Yaml
