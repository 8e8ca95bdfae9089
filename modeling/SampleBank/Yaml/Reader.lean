import SampleBank.Yaml.Node
import SampleBank.Yaml.Scalar
import SampleBank.Yaml.Tag

/-!
# Reading YAML nodes: the state of a reader

Nodes are read in a state (`Reader`): where the reader is, and what anchors and handles were seen
so far. An anchor is known from where it stands; until its node is complete it stands for no
value. Reading fails as a whole (`Read`). The properties of a node, its anchor and its tag, are read
before what they belong to is known, and joined to it by `Read.finish`.
-/

namespace SampleBank.Yaml

/-- The state of a reader. -/
structure Reader where
  cursor : Cursor
  /-- The first column that may be used inside a flow collection. -/
  bound : Nat
  /-- The anchors of the document so far, each with its node once that is complete. -/
  anchors : List (List Char × Option Node)
  handles : Handles

/-- A step of a reader, which fails on a text that is not YAML. -/
abbrev Read := StateT Reader Option

/-- An anchor, by its number in the document, and a tag. -/
structure Properties where
  anchor : Option Nat
  tag : Option Tag
deriving DecidableEq

namespace Properties

/-- No properties. -/
def none : Properties := ⟨.none, .none⟩

/-- The properties of one node from two places; there may be only one of a kind. -/
def merge? (p q : Properties) : Option Properties :=
  if (p.anchor.isSome && q.anchor.isSome) || (p.tag.isSome && q.tag.isSome) then .none
  else some ⟨p.anchor.or q.anchor, p.tag.or q.tag⟩

end Properties

/-- What was read of a node before its properties are known. -/
inductive Content
  | plain (text : List Char)
  | node (node : Node)
  /-- A node that stands elsewhere, which can have no properties of its own here. -/
  | alias (node : Node)

namespace Read

/-- Where the reader is. -/
def cursor : Read Cursor := return (← get).cursor

/-- Moves the reader. -/
def moveTo (c : Cursor) : Read Unit := modify fun r => { r with cursor := c }

/-- Passes over `n` characters of a token. -/
def advance (n : Nat) : Read Unit := do moveTo ((← cursor).chars n)

/-- Does what a cursor does. -/
def scan {α : Type} (f : Cursor → Option (α × Cursor)) : Read α := do
  let (a, c) ← liftM (f (← cursor))
  moveTo c
  return a

/-- Passes over what stands before the next token, and looks at it. -/
def skip (indent : Nat) : Read Cursor := do
  let c ← liftM ((← cursor).skip indent)
  moveTo c
  return c

/-- Passes over blanks and a comment. -/
def restOfLine : Read Unit := do moveTo (← liftM (← cursor).restOfLine)

/-- Passes over a colon before a value. Behind a tab and without a space no word may follow. -/
def colon : Read Unit := do
  advance 1
  let rest := (← cursor).rest
  let gap := rest.takeWhile isBlank
  let next := (rest.drop gap.length).head?
  guard (¬ (rest.head? = some '\t' ∧ gap.contains ' ' = false ∧ next.any Tag.isWordChar))

/-- Passes over the mark of a key and the spaces, line ends and comments behind it, of which there
is at least one. -/
def keyMark : Read Unit := do
  advance 1
  let c ← cursor
  guard (c.rest.head? = some ' ' ∨ c.rest.head? = some '\n')
  let rec pass : Nat → Cursor → Cursor
    | 0, c => c
    | fuel + 1, c =>
      match c.rest with
      | ' ' :: _ => pass fuel (c.blanks 1)
      | '\n' :: _ => pass fuel c.newline
      | '#' :: _ => pass fuel c.comment
      | _ => c
  let c := pass (c.rest.length + 1) c
  guard (c.rest.head? ≠ some '\t')
  moveTo c

/-! ### Properties -/

/-- Whether a property starts here. -/
def atProperty (c : Cursor) : Bool := c.rest.head? = some '&' || c.rest.head? = some '!'

/-- The characters of names of anchors. -/
def isAnchorChar (c : Char) : Bool := !isSpace c && !isFlow c && c ≠ '\uFEFF'

/-- The name behind the mark of an anchor or of an alias. -/
def anchorName : Read (List Char) := do
  advance 1
  let name := (← cursor).rest.takeWhile isAnchorChar
  guard (name ≠ [])
  advance name.length
  return name

/-- An anchor or a tag. -/
def property (flow : Bool) : Read Properties := do
  let c ← cursor
  if c.rest.head? = some '&' then
    let name ← anchorName
    let anchors := (← get).anchors
    modify fun r => { r with anchors := anchors ++ [(name, none)] }
    return ⟨some anchors.length, none⟩
  else
    let (tag, rest) ← liftM (Tag.read? (← get).handles c.rest)
    guard (startsBlank rest || (flow && startsFlow rest))
    advance (c.rest.length - rest.length)
    return ⟨none, some tag⟩

/-- The properties that stand here, one or two, and what stands before the next token. Outside of
flow collections they end with the line. -/
def properties (flow : Bool) (indent : Nat) : Read Properties := do
  let more (c : Cursor) : Bool := atProperty c && (flow || !c.lead)
  let p ← property flow
  if more (← skip indent) then
    let q ← property flow
    guard (more (← skip indent) = false)
    liftM (p.merge? q)
  else return p

/-- A complete node takes its anchor. -/
def complete (p : Properties) (node : Node) : Read Node := do
  match p.anchor with
  | none => return node
  | some i =>
    modify fun r => { r with anchors := r.anchors.modify i fun a => (a.1, some node) }
    return node

/-- A node that was read, with its properties. -/
def finish (p : Properties) : Content → Read Node
  | .plain text =>
    match p.tag with
    | none => complete p (.ofPlain text)
    | some (.core type) => complete p (.ofTagged type text)
    | some .other => complete p (.text text)
  | .node node => complete p node
  | .alias node => do
    guard (p = .none)
    return node

/-- A node of which there are at most the properties. -/
def empty (p : Properties) : Read Node :=
  if p = .none then return .null else finish p (.plain [])

/-- The node that an alias names: the last one with that anchor. A node that is not complete is
bad. -/
def aliased : Read Content := do
  let name ← anchorName
  match (← get).anchors.reverse.lookup name with
  | none => failure
  | some node => return .alias (node.getD .bad)

end Read

/-- The keys and values of a map that was read, in turn. What follows a bad key takes its place. -/
def Node.pairs : List Node → List (Node × Node)
  | .bad :: rest => pairs rest
  | key :: value :: rest => (key, value) :: pairs rest
  | _ => []

/-- Whether no two entries have the same key. -/
def Node.distinctKeys : List (Node × Node) → Bool
  | [] => true
  | (key, _) :: rest => rest.all (fun e => !key.same e.1) && distinctKeys rest

/-- The map of the given keys and values; no two keys may be the same. -/
def Node.ofPairs? (nodes : List Node) : Option Node :=
  let entries := Node.pairs nodes
  if Node.distinctKeys entries then some (.map entries) else none

end SampleBank.Yaml
