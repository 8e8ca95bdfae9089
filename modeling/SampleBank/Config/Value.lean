import SampleBank.Floating
import SampleBank.Text.Number
import SampleBank.Text.Quoted

/-!
# Configuration values

What a configuration file says, whatever its format: values that are not yet bound to types. A value
is located if it stands in the file as it is; tables and lists that were made up while keys were
set, and the nulls that fill such lists, are not (`Value.located`). Messages about a value say what
was found (`Found`).
-/

namespace SampleBank.Config

/-- A value of a configuration. -/
inductive Value
  | null (located : Bool)
  | bool (value : Bool)
  | integer (value : Int)
  | float (value : FloatValue)
  | text (value : String)
  | list (located : Bool) (items : List Value)
  | table (located : Bool) (entries : List (String × Value))

/-- The entries of a table. -/
abbrev Entries := List (String × Value)

/-- Changes what stands at a key, or puts something there at the end. -/
def Entries.update (key : String) (f : Option Value → Value) : Entries → Entries
  | [] => [(key, f none)]
  | (k, v) :: rest => if k = key then (k, f (some v)) :: rest else (k, v) :: update key f rest

/-- Puts a value at a key. -/
def Entries.put (entries : Entries) (key : String) (v : Value) : Entries :=
  entries.update key fun _ => v

/-- Whether a value stands in the file as it is. -/
def Value.located : Value → Bool
  | .null located | .list located _ | .table located _ => located
  | .bool _ | .integer _ | .float _ | .text _ => true

/-- What was found where something else is expected. -/
inductive Found
  | unit
  | bool (value : Bool)
  | integer (value : Int)
  /-- A number that needs no sign. -/
  | natural (value : Nat)
  | float (value : FloatValue)
  | text (value : String)
  | list
  | table
deriving DecidableEq

namespace Found

/-- What was found in place of the expected type of a number or text. Numbers say how wide they
are. -/
def describe : Found → String
  | .unit => "unit value"
  | .bool b => if b then "boolean `true`" else "boolean `false`"
  | .integer n => s!"64-bit integer `{n}`"
  | .natural n => s!"64-bit unsigned integer `{n}`"
  | .float v => s!"floating point `{FloatFormat.double.text v}`"
  | .text s => "string " ++ Quoted.encode s
  | .list => "sequence"
  | .table => "map"

/-- A number with a decimal point. -/
def pointText (v : FloatValue) : String :=
  let s := FloatFormat.double.text v
  match v with
  | .finite .. => if s.toList.contains '.' then s else s ++ ".0"
  | _ => s

/-- What was found in place of a record or a list. Numbers are integers or have a point. -/
def brief : Found → String
  | .integer n => s!"integer `{n}`"
  | .natural n => s!"integer `{n}`"
  | .float v => s!"floating point `{pointText v}`"
  | other => other.describe

end Found

/-- What is found where a value stands. -/
def Value.found : Value → Found
  | .null _ => .unit
  | .bool b => .bool b
  | .integer n => if Numeral.maxInt < n then .natural n.toNat else .integer n
  | .float v => .float v
  | .text s => .text s
  | .list .. => .list
  | .table .. => .table

end SampleBank.Config
