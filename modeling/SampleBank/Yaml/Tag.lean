import SampleBank.Text.Number
import SampleBank.Yaml.Cursor

/-!
# YAML tags

A tag names the type of a node: `!!int` a type of the core vocabulary, `!name` one of its own, and
`!<uri>` is written out. A handle (`!`, `!!` or `!h!`) stands for a text that a directive may give
it (`Handles`). Only tags behind the core vocabulary's text mean something here (`Tag.core`).
-/

namespace SampleBank.Yaml

/-- The type that a tag names. -/
inductive Tag
  | core (type : String)
  | other
deriving DecidableEq

/-- Handles of tags and what they stand for. -/
abbrev Handles := List (List Char × List Char)

namespace Tag

/-- What tags of the core vocabulary start with. -/
def coreText : List Char := "tag:yaml.org,2002:".toList

/-- The characters of handles and of the names of directives. -/
def isWordChar (c : Char) : Bool := c.isAlphanum || c = '-' || c = '_'

/-- The characters of tags that are written out. -/
def isUriChar (c : Char) : Bool :=
  isWordChar c || "#;/?:@&=+$,.!~*'()[]%".toList.contains c

/-- The characters of tags behind a handle. -/
def isTagChar (c : Char) : Bool := isUriChar c && !isFlow c && c ≠ '!'

/-- A byte written as a percent sign and two hexadecimal digits. -/
def escapedByte? : List Char → Option (Nat × List Char)
  | '%' :: a :: b :: rest => (Numeral.natural? 16 [a, b]).map (·, rest)
  | _ => none

/-- An escaped character: a byte below 128, or two bytes, whose number is the character's. -/
def escapedChar? (cs : List Char) : Option (Char × List Char) :=
  match escapedByte? cs with
  | none => none
  | some (a, rest) =>
    if a < 0x80 then some (Char.ofNat a, rest)
    else if a < 0xC0 ∨ 0xD8 ≤ a then none
    else
      match escapedByte? rest with
      | none => none
      | some (b, rest) =>
        if 0x80 ≤ b ∧ b < 0xC0 then some (Char.ofNat (a * 256 + b), rest) else none

/-- The longest text of given characters, and what is left. -/
def uriText? (isAllowed : Char → Bool) : Nat → List Char → Option (List Char × List Char)
  | 0, cs => some ([], cs)
  | fuel + 1, cs =>
    match cs with
    | [] => some ([], [])
    | c :: rest =>
      if !isAllowed c then some ([], cs)
      else
        match if c = '%' then escapedChar? cs else some (c, rest) with
        | none => none
        | some (c, rest) => (uriText? isAllowed fuel rest).map fun (more, rest) => (c :: more, rest)

/-- A handle at the start of a text: an exclamation mark, and behind it a word with another one.
Without the second mark the word is not part of the handle. -/
def handle (cs : List Char) : List Char × List Char :=
  let word := (cs.drop 1).takeWhile isWordChar
  let rest := (cs.drop 1).dropWhile isWordChar
  if rest.head? = some '!' then ('!' :: word ++ ['!'], rest.drop 1) else (['!'], cs.drop 1)

/-- The type that a handle and the text behind it name. Handles that end in a mark of their own have
to be declared, the core vocabulary's apart. -/
def resolve? (handles : Handles) (handle text : List Char) : Option Tag :=
  match handles.lookup handle with
  | some start => some (if start = coreText then .core (String.ofList text) else .other)
  | none =>
    if handle = ['!'] then some .other
    else if handle = ['!', '!'] then some (.core (String.ofList text))
    else none

/-- A tag at the start of a text, and what is left. -/
def read? (handles : Handles) (cs : List Char) : Option (Tag × List Char) :=
  match cs with
  | '!' :: '<' :: rest =>
    match uriText? isUriChar rest.length rest with
    | some (_, '>' :: rest) => some (.other, rest)
    | _ => none
  | cs =>
    let (handle, rest) := handle cs
    match uriText? isTagChar rest.length rest with
    | none => none
    | some ([], rest) => if handle = ['!'] then some (.other, rest) else none
    | some (text, rest) => (resolve? handles handle text).map (·, rest)

/-- What a directive gives a handle for its text, and what is left. -/
def start? (cs : List Char) : Option (List Char × List Char) :=
  match cs with
  | [] => none
  | c :: _ => if c = '!' || isTagChar c then uriText? isUriChar cs.length cs else none

end Tag

end SampleBank.Yaml
