import SampleBank.Text.Utf8
import SampleBank.Yaml.Block

/-!
# YAML documents

A text holds any number of documents. A line `---` starts one, which may have directives before
it; a line `...` ends one, and only behind such a line, and at the start of the text, a document
may do without `---`. Anchors and handles belong to one document.
-/

namespace SampleBank.Yaml

/-- A text with one kind of line ends, up to its first NUL. -/
def normalLines : List Char → List Char
  | [] => []
  | '\x00' :: _ => []
  | '\r' :: '\n' :: rest => '\n' :: normalLines rest
  | '\r' :: rest => '\n' :: normalLines rest
  | c :: rest => c :: normalLines rest

namespace Read

/-- Passes over blanks within a line. -/
def blanks : Read Unit := do
  let c ← cursor
  moveTo (c.blanks (c.rest.takeWhile isBlank).length)

/-- A number of the YAML version, which has at most nine digits. -/
def versionNumber : Read Unit := do
  let n := ((← cursor).rest.takeWhile Numeral.isDigit).length
  guard (0 < n ∧ n ≤ 9)
  advance n

/-- What a directive declares. -/
inductive Directive
  | version
  | handle (handle text : List Char)
  | reserved

/-- A directive that declares a handle. -/
def handleDirective : Read Directive := do
  blanks
  let c ← cursor
  guard (c.rest.head? = some '!')
  let (handle, rest) := Tag.handle c.rest
  guard (!rest.head?.any Tag.isWordChar)
  advance handle.length
  blanks
  let c ← cursor
  let (text, rest) ← liftM (Tag.start? c.rest)
  guard (startsBlank rest)
  advance (c.rest.length - rest.length)
  return .handle handle text

/-- A line that starts with `%`. -/
def directive : Read Directive := do
  advance 1
  let name := (← cursor).rest.takeWhile Tag.isWordChar
  guard (name ≠ [])
  advance name.length
  guard (startsBlank (← cursor).rest)
  let found ←
    if name = "YAML".toList then do
      blanks
      versionNumber
      guard ((← cursor).rest.head? = some '.')
      advance 1
      versionNumber
      pure Directive.version
    else if name = "TAG".toList then handleDirective
    else do
      moveTo (← cursor).comment
      pure Directive.reserved
  restOfLine
  guard (← cursor).atLineEnd
  return found

/-- The directives before a document: at most one of a version, and one for each handle. -/
def directives : Nat → Bool → Read Unit
  | 0, _ => failure
  | fuel + 1, versioned => do
    let c ← skip 0
    if c.col = 0 ∧ c.rest.head? = some '%' then
      match ← directive with
      | .version =>
        guard (!versioned)
        directives fuel true
      | .handle handle text =>
        let handles := (← get).handles
        guard ((handles.lookup handle).isNone)
        modify fun r => { r with handles := (handle, text) :: handles }
        directives fuel versioned
      | .reserved => directives fuel versioned
    else return

/-- The documents that are left; with `bare`, the next one need not start with `---`. -/
def documents : Nat → Bool → Read (List Node)
  | 0, _ => failure
  | fuel + 1, bare => do
    let c ← skip 0
    if c.atEnd then return []
    else if c.atMark '.' then
      advance 3
      restOfLine
      guard (← cursor).atLineEnd
      documents fuel true
    else
      modify fun r => { r with anchors := [], handles := [] }
      let declares := c.rest.head? = some '%' && c.col = 0
      guard (bare || !declares)
      directives (c.rest.length + 1) false
      let marked := (← skip 0).atMark '-'
      guard (marked || (bare && !declares))
      if marked then advance 3
      let node ← documentNode (!marked)
      let c ← skip 0
      guard (c.atEnd || c.atDocumentMark)
      return node :: (← documents fuel false)

end Read

/-- The documents of a text. -/
def documents? (cs : List Char) : Option (List Node) :=
  let cs := normalLines cs
  let reader : Reader := ⟨.ofText cs, 0, [], []⟩
  ((Read.documents (cs.length + 1) true).run reader).map (·.1)

end SampleBank.Yaml
