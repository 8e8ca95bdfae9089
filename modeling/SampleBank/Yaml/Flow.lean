import SampleBank.Yaml.Reader

/-!
# YAML flow collections

Lists and maps within brackets and braces. Line ends mean nothing inside them, but their tokens
may not stand before the column of the block around them. A list may hold single pairs, whose
keys take one line; the keys of a map may take several, and may lack a value.
-/

namespace SampleBank.Yaml

/-- How deep flow collections may be nested. -/
def maxFlowDepth : Nat := 255

/-- Whether a plain scalar may start with these characters. -/
def startsPlain (flow : Bool) : List Char → Bool
  | [] => false
  | c :: rest =>
    if c = '-' ∨ c = '?' then !startsBlank rest
    else if c = ':' then !(startsBlank rest || (flow && startsFlow rest))
    else if c = '|' ∨ c = '>' then flow
    else !(isFlow c || "#&*!%@'\"".toList.contains c || c.toNat = 0x60)

/-- A node in a flow collection, and the index at which a colon needs no blank behind it. -/
structure FlowNode where
  node : Node
  adjacent : Nat

namespace Read

/-- The next token inside a flow collection. -/
def flowToken : Read Cursor := do
  let bound := (← get).bound
  let c ← skip bound
  guard (c.atDocumentEnd = false ∧ bound ≤ c.col)
  return c

/-- Whether a value follows here. -/
def atFlowValue (adjacent : Nat) (c : Cursor) : Bool :=
  match c.rest with
  | ':' :: rest => startsBlank rest || startsFlow rest || c.index = adjacent
  | _ => false

/-- Whether an entry of a flow collection ends here. -/
def atFlowEnd (c : Cursor) : Bool :=
  c.rest.head? = some ',' || c.rest.head? = some ']' || c.rest.head? = some '}'

/-- Passes over a character of a flow collection and the rest of its line. -/
def flowMark : Read Unit := do
  advance 1
  restOfLine

/-- A plain scalar in a flow collection. The collection's later tokens may stand one column further
left. -/
def flowPlain (indent : Nat) : Read Content := do
  guard (startsPlain true (← cursor).rest)
  let text ← scan (plainScalar true indent)
  modify fun r => { r with bound := indent - 1 }
  return .plain text

mutual

/-- A flow collection among nodes of at least `indent` columns. -/
def flowCollection (indent : Nat) : Nat → Nat → Read Node
  | 0, _ => failure
  | fuel + 1, depth => do
    guard (depth < maxFlowDepth)
    if depth = 0 then modify fun r => { r with bound := indent }
    if (← cursor).rest.head? = some '[' then
      flowMark
      return .list (← flowItems indent fuel (depth + 1))
    else
      flowMark
      liftM (Node.ofPairs? (← flowEntries indent fuel (depth + 1)))
termination_by structural fuel => fuel

/-- A node in a flow collection. -/
def flowNode (indent : Nat) : Nat → Nat → Read FlowNode
  | 0, _ => failure
  | fuel + 1, depth => do
    let p ← if atProperty (← flowToken) then properties true (← get).bound else pure .none
    let c ← flowToken
    if p ≠ .none ∧ (atFlowEnd c ∨ atFlowValue 0 c) then return ⟨← empty p, 0⟩
    match c.rest.head? with
    | some '*' => return ⟨← finish p (← aliased), 0⟩
    | some '"' | some '\'' =>
      let quote := c.rest.headD '"'
      let text ← scan (quotedScalar true quote (← get).bound)
      let node ← finish p (.node (.text text))
      return ⟨node, (← flowToken).index⟩
    | some '[' | some '{' =>
      let node ← flowCollection indent fuel depth
      return ⟨← finish p (.node node), (← cursor).index⟩
    | _ => return ⟨← finish p (← flowPlain indent), 0⟩
termination_by structural fuel => fuel

/-- The key of an entry, and whether a mark says that it is one. -/
def flowKey (indent : Nat) : Nat → Nat → Read (FlowNode × Bool)
  | 0, _ => failure
  | fuel + 1, depth => do
    let c ← flowToken
    if c.atIndicator '?' then
      keyMark
      let c ← flowToken
      if atFlowEnd c || atFlowValue 0 c then return (⟨.null, 0⟩, true)
      else return (← flowNode indent fuel depth, true)
    else if atFlowValue 0 c then return (⟨.null, 0⟩, false)
    else return (← flowNode indent fuel depth, false)
termination_by structural fuel => fuel

/-- The value of an entry, from its colon on. -/
def flowValue (indent : Nat) : Nat → Nat → Read Node
  | 0, _ => failure
  | fuel + 1, depth => do
    colon
    if atFlowEnd (← flowToken) then return .null
    else return (← flowNode indent fuel depth).node
termination_by structural fuel => fuel

/-- The items of a list up to its end. -/
def flowItems (indent : Nat) : Nat → Nat → Read (List Node)
  | 0, _ => failure
  | fuel + 1, depth => do
    let start ← flowToken
    if start.rest.head? = some ']' then
      flowMark
      return []
    else
      let (key, marked) ← flowKey indent fuel depth
      let c ← flowToken
      let item ←
        if atFlowValue key.adjacent c then
          guard (marked ∨ c.line = start.line)
          let value ← flowValue indent fuel depth
          liftM (Node.ofPairs? [key.node, value])
        else if marked then liftM (Node.ofPairs? [key.node, .null])
        else pure key.node
      let c ← flowToken
      if c.rest.head? = some ',' then
        flowMark
        return item :: (← flowItems indent fuel depth)
      else
        guard (c.rest.head? = some ']')
        flowMark
        return [item]
termination_by structural fuel => fuel

/-- The keys and values of a map up to its end, in turn. -/
def flowEntries (indent : Nat) : Nat → Nat → Read (List Node)
  | 0, _ => failure
  | fuel + 1, depth => do
    if (← flowToken).rest.head? = some '}' then
      flowMark
      return []
    else
      let (key, _) ← flowKey indent fuel depth
      let value ←
        if atFlowValue key.adjacent (← flowToken) then flowValue indent fuel depth
        else pure .null
      let c ← flowToken
      if c.rest.head? = some ',' then
        flowMark
        return key.node :: value :: (← flowEntries indent fuel depth)
      else
        guard (c.rest.head? = some '}')
        flowMark
        return [key.node, value]
termination_by structural fuel => fuel

end

/-- The flow collection that starts here. -/
def flow (indent : Nat) : Read Node := do
  flowCollection indent (8 * ((← cursor).rest.length + 1)) 0

end Read

end SampleBank.Yaml
