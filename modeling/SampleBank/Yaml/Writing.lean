import SampleBank.Yaml.Cursor

/-!
# Writing YAML scalars

How a text is written as a scalar of a block: plain if nothing in it could be taken for something
else, in single quotes if it could, in double quotes if it holds characters that have to be escaped,
and as a literal block if it has several lines (`Style.of`). No line is ever folded.
-/

namespace SampleBank.Yaml

/-- The ways to write a text. -/
inductive Style
  | plain
  | single
  | double
  | literal
deriving DecidableEq

/-- The characters that end a line when a text is written. -/
def isBreak (c : Char) : Bool := c = '\n' || c = '\u2028' || c = '\u2029'

/-- A blank or a line end. -/
def isGap (c : Char) : Bool := isBlank c || isBreak c

/-- Whether a text starts with a gap, or is at its end. -/
def startsGap : List Char → Bool
  | [] => true
  | c :: _ => isGap c

/-- The characters that are written as they are. -/
def isWritable (c : Char) : Bool :=
  c = '\n' || (' ' ≤ c && c ≤ '~') ||
    ('\u00a0' ≤ c && !(c = '\ufeff' || c = '\ufffe' || c = '\uffff'))

/-- The words that stand for truth values and for nothing, and the one word among the numbers. -/
def reservedWords : List String :=
  ["", "~", "null", "y", "n", "yes", "no", "on", "off", "true", "false", "nan"]

/-- The characters that start numbers. -/
def startsNumber (c : Char) : Bool :=
  ('0' ≤ c && c ≤ '9') || c = '-' || c = '.' || c = '+'

/-- The characters that no plain scalar starts with. -/
def isIndicator (c : Char) : Bool := "#,[]&*!|>'\"%@".toList.contains c ||
  c = '\x7b' || c = '\x7d' || c.toNat = 0x60

/-- Whether the first character would be taken for something else than text. -/
def startsIndicator : List Char → Bool
  | [] => false
  | c :: rest =>
    isIndicator c || ((c = '?' || c = ':' || c = '-') && startsGap rest) ||
      ['-', '-', '-'].isPrefixOf (c :: rest) || ['.', '.', '.'].isPrefixOf (c :: rest)

/-- Whether a colon before a gap, or a number sign behind one, stands in a text; `gap` tells whether
a gap is before it. -/
def holdsIndicator (gap : Bool) : List Char → Bool
  | [] => false
  | c :: rest =>
    (c = ':' && startsGap rest) || (c = '#' && gap) || holdsIndicator (isGap c) rest

/-- Whether two characters of given kinds stand side by side. -/
def adjoin (first second : Char → Bool) : List Char → Bool
  | a :: b :: rest => (first a && second b) || adjoin first second (b :: rest)
  | _ => false

/-- Whether a character is a space. -/
def isSpaceChar (c : Char) : Bool := c = ' '

/-- Whether a plain scalar reads as this text. -/
def plainAllowed (cs : List Char) : Bool :=
  !(cs.any isBreak || cs.head?.any isSpaceChar || cs.getLast?.any isSpaceChar ||
    startsIndicator cs || holdsIndicator true cs)

/-- How a text is written. -/
def Style.of (cs : List Char) : Style :=
  let special := !cs.all isWritable || adjoin isSpaceChar isBreak cs
  if reservedWords.contains (String.ofList (cs.map Char.toLower)) then .single
  else if cs.contains '\n' then
    if special || cs.getLast?.any isSpaceChar then .double else .literal
  else if special || adjoin isBreak isSpaceChar cs then .double
  else if cs.head?.any startsNumber then .single
  else if plainAllowed cs then .plain
  else .single

/-! ### Texts of a style -/

/-- The letters of escaped characters. -/
def escapeLetters : List (Char × Char) :=
  [('\x00', '0'), ('\x07', 'a'), ('\x08', 'b'), ('\t', 't'), ('\n', 'n'), ('\x0b', 'v'),
    ('\x0c', 'f'), ('\r', 'r'), ('\x1b', 'e'), ('"', '"'), ('\\', '\\'), ('\u0085', 'N'),
    ('\u00a0', '_'), ('\u2028', 'L'), ('\u2029', 'P')]

/-- A number of `width` digits in base 16. -/
def paddedHex (width n : Nat) : List Char :=
  let ds := (Nat.toDigits 16 n).map Char.toUpper
  List.replicate (width - ds.length) '0' ++ ds

/-- A character behind a backslash. -/
def escaped (c : Char) : List Char :=
  match escapeLetters.lookup c with
  | some letter => ['\\', letter]
  | none =>
    let n := c.toNat
    if n < 0x100 then '\\' :: 'x' :: paddedHex 2 n
    else if n < 0x10000 then '\\' :: 'u' :: paddedHex 4 n
    else '\\' :: 'U' :: paddedHex 8 n

/-- A character between double quotes. -/
def inDouble (c : Char) : List Char :=
  if !isWritable c || isBreak c || c = '"' || c = '\\' then escaped c else [c]

/-- A character between single quotes. -/
def inSingle (c : Char) : List Char := if c = '\'' then ['\'', '\''] else [c]

/-- Lines with content are indented; `start` tells whether a line starts here. -/
def indentLines (indent : Nat) (write : Char → List Char) (start : Bool) :
    List Char → List Char
  | [] => []
  | c :: rest =>
    if isBreak c then c :: indentLines indent write true rest
    else
      (if start then List.replicate indent ' ' else []) ++ write c ++
        indentLines indent write false rest

/-- What stands between the bar of a literal block and its lines: how it is indented if that cannot
be seen, and what becomes of the line ends at its end. -/
def literalHeader (cs : List Char) : List Char :=
  let hint := if cs.head?.any (fun c => c = ' ' || isBreak c) then ['2'] else []
  let chomping :=
    match cs.reverse with
    | [] => ['-']
    | [c] => if isBreak c then ['+'] else ['-']
    | c :: d :: _ => if !isBreak c then ['-'] else if isBreak d then ['+'] else []
  hint ++ chomping

/-- A text as a scalar whose lines are indented by `indent` columns. -/
def scalarText (indent : Nat) (cs : List Char) : List Char :=
  match Style.of cs with
  | .plain => cs
  | .single =>
    let closing := if cs.getLast?.any isBreak then List.replicate indent ' ' else []
    '\'' :: indentLines indent inSingle false cs ++ closing ++ ['\'']
  | .double => '"' :: cs.flatMap inDouble ++ ['"']
  | .literal =>
    '|' :: literalHeader cs ++ '\n' :: indentLines indent (fun c => [c]) true cs

/-- A text with a line end behind it, unless it ends with one. -/
def endLine (cs : List Char) : List Char :=
  if cs.getLast?.any isBreak then cs else cs ++ ['\n']

end SampleBank.Yaml
