import SampleBank.Config.Value

/-!
# Key paths

A key at the top of a configuration may be a path into it: names joined by dots, with indices in
brackets (`readPath?`). `Value.set` puts a value where a path leads, and makes the tables and lists
on the way. Setting a table adds its entries one by one to what is there; any other value replaces
it.
-/

namespace SampleBank.Config

/-- A step into a table or a list. -/
inductive Step
  | field (name : String)
  | index (i : Int)
deriving DecidableEq

/-- A path as messages show it: a name is joined to another name by a dot, and to nothing else. -/
def pathText : List Step → String
  | [] => ""
  | .index i :: rest => s!"[{i}]" ++ pathText rest
  | .field name :: rest =>
    match rest with
    | .field _ :: _ => name ++ "." ++ pathText rest
    | _ => name ++ pathText rest

/-! ### Reading -/

/-- The characters of names in paths. -/
def isNameChar (c : Char) : Bool := c.isAlphanum || c = '_' || c = '-'

/-- Whether a character is a blank. -/
def isPathBlank (c : Char) : Bool := c = ' ' || c = '\t'

/-- A name at the start of a text, and what is left. -/
def readName? (cs : List Char) : Option (String × List Char) :=
  match cs.takeWhile isNameChar with
  | [] => none
  | name => some (String.ofList name, cs.dropWhile isNameChar)

/-- An index up to its closing bracket, and what is left. -/
def readIndex? (cs : List Char) : Option (Int × List Char) :=
  let cs := cs.dropWhile isPathBlank
  let (negative, cs) := match cs with
    | '-' :: rest => (true, rest)
    | cs => (false, cs)
  let digits := cs.takeWhile Numeral.isDigit
  let rest := (cs.dropWhile Numeral.isDigit).dropWhile isPathBlank
  match (Numeral.natural? 10 digits).map (Numeral.signed negative), rest with
  | some i, ']' :: rest =>
    if Numeral.minInt ≤ i ∧ i ≤ Numeral.maxInt then some (i, rest) else none
  | _, _ => none

/-- The steps behind the first name. -/
def readSteps? : Nat → List Char → Option (List Step)
  | 0, _ => none
  | fuel + 1, cs =>
    match cs with
    | [] => some []
    | '.' :: rest =>
      match readName? rest with
      | none => none
      | some (name, rest) => (readSteps? fuel rest).map (.field name :: ·)
    | '[' :: rest =>
      match readIndex? rest with
      | none => none
      | some (i, rest) => (readSteps? fuel rest).map (.index i :: ·)
    | _ => none

/-- The path that a text spells. -/
def readPath? (s : String) : Option (List Step) :=
  match readName? s.toList with
  | none => none
  | some (name, rest) => (readSteps? (rest.length + 1) rest).map (.field name :: ·)

/-! ### Setting -/

mutual

/-- What a value becomes when another one is set in its place. -/
def Value.merge (old : Option Value) : Value → Value
  | .table _ entries =>
    match old with
    | some (.table located present) => .table located (Entries.merge present entries)
    | _ => .table false (Entries.merge [] entries)
  | v => v

/-- Sets the entries of a table one by one. -/
def Entries.merge (present : Entries) : Entries → Entries
  | [] => present
  | (key, v) :: rest => Entries.merge (present.update key fun old => Value.merge old v) rest

end

/-- Changes an item of a list, counted from the end if the index is negative. Nulls fill the list up
to the index; before the start there is room for as many as are missing. -/
def updateItem (i : Int) (f : Value → Value) (items : List Value) : List Value :=
  let fill (n : Nat) : List Value := List.replicate n (.null false)
  if 0 ≤ i then (items ++ fill (i.toNat + 1 - items.length)).modify i.toNat f
  else
    let back := (-i).toNat
    if back ≤ items.length then items.modify (items.length - back) f
    else (fill (back - items.length) ++ items).modify 0 f

/-- What a value becomes when another one is set where a path leads from it. -/
def Value.set (v : Value) : List Step → Option Value → Value
  | [], old => Value.merge old v
  | .field name :: rest, old =>
    match old with
    | some (.table located entries) =>
      .table located (Entries.update name (Value.set v rest) entries)
    | _ => .table false [(name, Value.set v rest none)]
  | .index i :: rest, old =>
    match old with
    | some (.list located items) =>
      .list located (updateItem i (fun item => Value.set v rest (some item)) items)
    | _ => .list false (updateItem i (fun item => Value.set v rest (some item)) [])

/-- The configuration that the entries at the top of a file make, set in order. A key that is not a
path is a name. -/
def Value.ofTop (entries : Entries) : Value :=
  entries.foldl
    (fun root (key, v) => v.set ((readPath? key).getD [.field key]) (some root))
    (.table false [])

end SampleBank.Config
