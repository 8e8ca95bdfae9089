import SampleBank.Yaml.Flow

/-!
# YAML block nodes

Nodes whose structure is in their columns. A map or a list starts where its first key or hyphen
stands, and goes on in that column; what belongs to an entry stands further right. Only where a line
starts, or behind a mark, may a map or a list begin (`allowed`); the list of a map's value may stand
in the column of the keys.
-/

namespace SampleBank.Yaml

/-- How long the text before a colon may be. -/
def maxKeyLength : Nat := 1024

namespace Read

/-- What can be a key on a single line: an alias, a quoted or plain scalar, or a flow collection. -/
def inline (indent bound : Nat) : Read Content := do
  let c ← cursor
  match c.rest.head? with
  | some '*' => aliased
  | some '"' | some '\'' =>
    return .node (.text (← scan (quotedScalar false (c.rest.headD '"') bound)))
  | some '[' | some '{' => return .node (← flow indent)
  | _ =>
    guard (startsPlain false c.rest)
    return .plain (← scan (plainScalar false indent))

/-- Whether a value follows here, on the line and within reach of its key. -/
def atValue (start c : Cursor) : Bool :=
  c.line = start.line && c.atIndicator ':' && c.index - start.index ≤ maxKeyLength

/-- A key before a colon, at column `col`. -/
def implicitKey (col : Nat) : Read Node := do
  let start ← cursor
  let p ← if atProperty start then properties false (col + 1) else pure .none
  let c ← cursor
  guard (c.line = start.line)
  if c.atIndicator ':' then empty p
  else
    let content ← inline (col + 1) col
    guard (atValue start (← skip (col + 1)))
    finish p content

mutual

/-- A node of at least `indent` columns, or none. Its tokens may not stand before column `bound`.
With `hyphen`, a list may stand one column further left. -/
def blockValue (indent bound : Nat) (hyphen : Bool) :
    Nat → Bool → Properties → Read Node
  | 0, _, _ => failure
  | fuel + 1, allowed, p => do
    let c ← skip bound
    if c.atDocumentEnd || c.col < indent then
      if hyphen && c.lead && c.col + 1 = indent && c.atIndicator '-' then
        complete p (.list (← blockItems c.col true fuel))
      else empty p
    else if atProperty c then
      let group ← properties false bound
      let d ← cursor
      if d.lead || d.atDocumentEnd then
        blockValue indent bound hyphen fuel true (← liftM (p.merge? group))
      else blockContent indent bound fuel (allowed || c.lead) c p group
    else blockContent indent bound fuel (allowed || c.lead) c p .none
termination_by structural fuel => fuel

/-- A node that is not empty. The properties `group` before it on its line, which starts at `start`,
are those of its first key if it is a map. -/
def blockContent (indent bound : Nat) :
    Nat → Bool → Cursor → Properties → Properties → Read Node
  | 0, _, _, _, _ => failure
  | fuel + 1, allowed, start, p, group => do
    let c ← cursor
    if c.atIndicator '-' then
      guard (allowed ∧ group = .none)
      complete p (.list (← blockItems c.col false fuel))
    else if c.atIndicator '?' then
      guard (allowed ∧ group = .none)
      complete p (← liftM (Node.ofPairs? (← blockEntries c.col fuel)))
    else if c.atIndicator ':' then
      guard allowed
      let key ← empty group
      let entries ← blockEntry start.col (group = .none) key fuel
      complete p (← liftM (Node.ofPairs? entries))
    else if c.rest.head? = some '|' ∨ c.rest.head? = some '>' then
      let p ← liftM (p.merge? group)
      finish p (.node (.text (← scan (blockScalar indent))))
    else
      let content ← inline indent bound
      let d ← skip bound
      if d.line = start.line && d.atIndicator ':' then
        guard (allowed ∧ atValue start d)
        let key ← finish group content
        let entries ← blockEntry start.col false key fuel
        complete p (← liftM (Node.ofPairs? entries))
      else finish (← liftM (p.merge? group)) content
termination_by structural fuel => fuel

/-- The value of an entry at column `col`, from its colon on, and the entries behind it. -/
def blockEntry (col : Nat) (allowed : Bool) (key : Node) : Nat → Read (List Node)
  | 0 => failure
  | fuel + 1 => do
    colon
    let value ← blockValue (col + 1) (col + 1) true fuel allowed .none
    return key :: value :: (← blockEntries col fuel)
termination_by structural fuel => fuel

/-- The keys and values of a map at column `col` that are left, in turn. -/
def blockEntries (col : Nat) : Nat → Read (List Node)
  | 0 => failure
  | fuel + 1 => do
    let c ← skip (col + 1)
    if c.atDocumentEnd || c.col < col then return []
    else
      guard (c.col = col ∧ c.atIndicator '-' = false)
      if c.atIndicator '?' then
        keyMark
        let key ← blockValue (col + 1) col true fuel true .none
        let c ← skip (col + 1)
        if c.col = col && c.lead && c.atIndicator ':' then blockEntry col true key fuel
        else return key :: .null :: (← blockEntries col fuel)
      else if c.atIndicator ':' then blockEntry col true .null fuel
      else
        let key ← implicitKey col
        blockEntry col false key fuel
termination_by structural fuel => fuel

/-- The items of a list at column `col`, from a hyphen on. A list in the column of its map's keys
ends before the next key. -/
def blockItems (col : Nat) (inMap : Bool) : Nat → Read (List Node)
  | 0 => failure
  | fuel + 1 => do
    advance 1
    let gap := (← cursor).rest.takeWhile isBlank
    restOfLine
    let c ← cursor
    guard (¬ (gap.contains '\t' ∧ c.atIndicator '-'))
    let bound := if c.rest.head? = some '\n' ∨ startsFlow c.rest then col + 1 else col
    let item ← blockValue (col + 1) bound false fuel true .none
    let c ← skip (col + 1)
    if c.atDocumentEnd || c.col < col then return [item]
    else
      guard (c.col = col)
      if c.atIndicator '-' then return item :: (← blockItems col inMap fuel)
      else
        guard inMap
        return [item]
termination_by structural fuel => fuel

end

/-- The node of a document. -/
def documentNode (allowed : Bool) : Read Node := do
  blockValue 0 0 false (8 * ((← cursor).rest.length + 2)) allowed .none

end Read

end SampleBank.Yaml
