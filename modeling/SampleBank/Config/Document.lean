import SampleBank.Config.KeyPath
import SampleBank.Json
import SampleBank.Yaml.Document

/-!
# Configuration documents

The values of YAML and JSON documents as configuration values, all of them located. A YAML document
may hold what a configuration cannot (`DocumentFault`): keys that are no texts or numbers, and reals
that are no numbers. At the top there has to be a map.
-/

namespace SampleBank.Config

/-- Why a document is not a configuration. -/
inductive DocumentFault
  | notNumeric (text : String)
  /-- A key that is null, a list or a map, as messages show it. -/
  | badKey (key : String)
  | documents (count : Nat)
  | notATable (found : Found)
deriving DecidableEq

/-- What is wrong with the document of a file. -/
def DocumentFault.text (file : String) : DocumentFault → String
  | .notNumeric s => s!"Parsing {s} as floating point number failed"
  | .badKey key => s!"Cannot parse {key} because it is an unsupported hash key type"
  | .documents count => s!"Got {count} YAML documents, expected 1"
  | .notATable found => s!"invalid type: {found.describe}, expected a map in {file}"

/-- The double nearest to a real. -/
def realValue (cs : List Char) : Except DocumentFault Value :=
  match Numeral.decimal? cs with
  | some d => .ok (.float (FloatFormat.double.nearestDecimal d.negative d.digits d.exponent))
  | none => .error (.notNumeric (String.ofList cs))

/-- The name that a key stands for. -/
def keyName (key : Yaml.Node) : Except DocumentFault String :=
  match key with
  | .text cs | .real cs => .ok (String.ofList cs)
  | .integer n => .ok (toString n)
  | .bool b => .ok (if b then "true" else "false")
  | .null | .list _ | .map _ | .bad => .error (.badKey key.describe)

mutual

/-- The value of a YAML node. -/
def Value.ofNode : Yaml.Node → Except DocumentFault Value
  | .null | .bad => .ok (.null true)
  | .bool b => .ok (.bool b)
  | .integer n => .ok (.integer n)
  | .real cs => realValue cs
  | .text cs => .ok (.text (String.ofList cs))
  | .list items => (itemsOfNodes items).map (.list true)
  | .map entries => (entriesOfNodes [] entries).map (.table true)

/-- The values of the items of a list. -/
def itemsOfNodes : List Yaml.Node → Except DocumentFault (List Value)
  | [] => .ok []
  | node :: rest => do
    let v ← Value.ofNode node
    return v :: (← itemsOfNodes rest)

/-- The entries of a map, added to others; of two keys with the same name the later one counts. -/
def entriesOfNodes (entries : Entries) :
    List (Yaml.Node × Yaml.Node) → Except DocumentFault Entries
  | [] => .ok entries
  | (key, node) :: rest => do
    let name ← keyName key
    let v ← Value.ofNode node
    entriesOfNodes (entries.put name v) rest

end

mutual

/-- The value of a JSON value. -/
def Value.ofJson : Json → Value
  | .null => .null true
  | .bool b => .bool b
  | .integer n => .integer n
  | .float v => .float v
  | .text s => .text s
  | .list items => .list true (itemsOfJson items)
  | .map entries => .table true (entriesOfJson [] entries)

/-- The values of the items of a list. -/
def itemsOfJson : List Json → List Value
  | [] => []
  | v :: rest => Value.ofJson v :: itemsOfJson rest

/-- The entries of a map, added to others; of two equal keys the later one counts. -/
def entriesOfJson (entries : Entries) : List (String × Json) → Entries
  | [] => entries
  | (key, v) :: rest => entriesOfJson (entries.put key (Value.ofJson v)) rest

end

/-- The configuration that a value at the top of a file makes. -/
def Value.top (v : Value) : Except DocumentFault Value :=
  match v with
  | .table _ entries => .ok (.ofTop entries)
  | v => .error (.notATable v.found)

/-- The configuration of the documents of a YAML text; without any it is empty. -/
def ofDocuments : List Yaml.Node → Except DocumentFault Value
  | [] => .ok (.ofTop [])
  | [node] => Value.ofNode node >>= Value.top
  | nodes => .error (.documents nodes.length)

/-- The formats of configuration files that are left to other libraries. -/
inductive ForeignFormat
  | toml
  | ini
  | ron
  | json5
deriving DecidableEq

/-- The formats of configuration files. -/
inductive Format
  | yaml
  | json
  | foreign (format : ForeignFormat)
deriving DecidableEq

/-- How other libraries read their formats, if the text has the format. -/
abbrev ForeignReader := ForeignFormat → List Char → Option (Except DocumentFault Value)

/-- Without other libraries no text has their formats. -/
def ForeignReader.none : ForeignReader := fun _ _ => Option.none

/-- Reads a configuration; there is none if the text does not have the format. -/
def Format.read? (foreign : ForeignReader) (cs : List Char) :
    Format → Option (Except DocumentFault Value)
  | .yaml => (Yaml.documents? cs).map ofDocuments
  | .json => (Json.read? cs).map fun j => (Value.ofJson j).top
  | .foreign format => foreign format cs

end SampleBank.Config
