import SampleBank.Text.Number
import SampleBank.Text.Quoted

/-!
# YAML nodes

The values of a YAML document. A plain scalar takes its type from its text
(`Node.ofPlain`), unless a tag names the type (`Node.ofTagged`); other scalars are texts. Reals
keep their text. A value that does not fit its tag is bad, as is an alias to a node that is not
complete.
-/

namespace SampleBank.Yaml

/-- A value of a document. -/
inductive Node
  | null
  | bool (value : Bool)
  | integer (value : Int)
  | real (text : List Char)
  | text (text : List Char)
  | list (items : List Node)
  | map (entries : List (Node × Node))
  | bad

namespace Node

/-! ### Comparing and showing -/

mutual

/-- Whether two nodes are the same. -/
def same : Node → Node → Bool
  | .null, .null => true
  | .bool a, .bool b => a == b
  | .integer a, .integer b => a == b
  | .real a, .real b => a == b
  | .text a, .text b => a == b
  | .list a, .list b => sameList a b
  | .map a, .map b => sameEntries a b
  | .bad, .bad => true
  | _, _ => false

/-- Whether two lists hold the same nodes. -/
def sameList : List Node → List Node → Bool
  | [], [] => true
  | a :: as, b :: bs => same a b && sameList as bs
  | _, _ => false

/-- Whether two maps hold the same entries in the same order. -/
def sameEntries : List (Node × Node) → List (Node × Node) → Bool
  | [], [] => true
  | (k, v) :: as, (k', v') :: bs => same k k' && same v v' && sameEntries as bs
  | _, _ => false

end

mutual

/-- A node as messages show it. -/
def describe : Node → String
  | .null => "Null"
  | .bool b => if b then "Boolean(true)" else "Boolean(false)"
  | .integer n => s!"Integer({n})"
  | .real cs => s!"Real({Quoted.encode (String.ofList cs)})"
  | .text cs => s!"String({Quoted.encode (String.ofList cs)})"
  | .list items => s!"Array([{describeList items}])"
  | .map entries => "Hash(\x7b" ++ describeEntries entries ++ "\x7d)"
  | .bad => "BadValue"

/-- The items of a list, separated by commas. -/
def describeList : List Node → String
  | [] => ""
  | [a] => describe a
  | a :: b :: rest => s!"{describe a}, {describeList (b :: rest)}"

/-- The entries of a map, separated by commas. -/
def describeEntries : List (Node × Node) → String
  | [] => ""
  | [(k, v)] => s!"{describe k}: {describe v}"
  | (k, v) :: e :: rest => s!"{describe k}: {describe v}, {describeEntries (e :: rest)}"

end

/-! ### Scalars -/

/-- The spellings of what is not a finite number. -/
def specialReals : List String :=
  [".inf", ".Inf", ".INF", "+.inf", "+.Inf", "+.INF", "-.inf", "-.Inf", "-.INF",
    ".nan", ".NaN", ".NAN"]

/-- Whether a text is a real: a decimal, or the spelling of what is not a finite number. -/
def isReal (cs : List Char) : Bool :=
  specialReals.contains (String.ofList cs) || (Numeral.decimal? cs).isSome

/-- The integer that a plain text spells: behind `0x` or `0o` a hexadecimal or octal one. A plus may
stand before a decimal one with its own sign. -/
def plainInteger? (cs : List Char) : Option Int :=
  match cs with
  | '0' :: 'x' :: digits => (Numeral.int64? 16 digits).or (Numeral.int64? 10 cs)
  | '0' :: 'o' :: digits => (Numeral.int64? 8 digits).or (Numeral.int64? 10 cs)
  | '+' :: digits => (Numeral.int64? 10 digits).or (Numeral.int64? 10 cs)
  | cs => Numeral.int64? 10 cs

/-- The value of a plain scalar, by its text. -/
def ofPlain (cs : List Char) : Node :=
  match plainInteger? cs with
  | some n => .integer n
  | none =>
    let s := String.ofList cs
    if s = "" ∨ s = "~" ∨ s = "null" then .null
    else if s = "true" ∨ s = "True" ∨ s = "TRUE" then .bool true
    else if s = "false" ∨ s = "False" ∨ s = "FALSE" then .bool false
    else if isReal cs then .real cs
    else .text cs

/-- The value of a plain scalar whose type a tag names; types that are not known are texts. -/
def ofTagged (type : String) (cs : List Char) : Node :=
  let s := String.ofList cs
  if type = "bool" then
    if s = "true" then .bool true else if s = "false" then .bool false else .bad
  else if type = "int" then
    match Numeral.int64? 10 cs with
    | some n => .integer n
    | none => .bad
  else if type = "float" then
    if isReal cs then .real cs else .bad
  else if type = "null" then
    if s = "~" ∨ s = "null" then .null else .bad
  else .text cs

end Node

end SampleBank.Yaml
