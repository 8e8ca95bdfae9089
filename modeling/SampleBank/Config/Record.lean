import SampleBank.Config.Fault

/-!
# Binding configuration values to types

Numbers, texts, lists and records of a configuration. Numbers and texts are converted where their
meaning is plain: `yes` is 1 where a number is expected, and numbers have texts. A record is a table
with known keys or a list in the order of these keys (`Record.read`); keys that are not known are
passed over.
-/

namespace SampleBank.Config

/-- A value that does not fit. -/
def misfit {α : Type} (m : Misfit) : Except Fault α := .error (.here m)

/-! ### Numbers and texts -/

/-- The words that stand for 1 and for 0. -/
def truthWords : List (String × Nat) :=
  [("true", 1), ("on", 1), ("yes", 1), ("false", 0), ("off", 0), ("no", 0)]

/-- The number that a text stands for: a word in any case, or a numeral of 64 bits. -/
def textNumber? (s : String) : Option Nat :=
  (truthWords.lookup (s.map Char.toLower)).or (Numeral.nat64? s.toList)

/-- A double as a number of 64 bits: rounded, with halves away from zero, and kept within bounds. -/
def wholeNumber : FloatValue → Nat
  | .nan => 0
  | .infinite negative => if negative then 0 else Numeral.maxNat
  | .finite negative m e =>
    if negative then 0 else min (FloatValue.roundMagnitude m e) Numeral.maxNat

/-- A number of 64 bits. -/
def natural (v : Value) : Except Fault Nat :=
  let mistyped (wanted : String) := misfit (.mistyped v.found wanted v.located)
  match v with
  | .integer n =>
    if 0 ≤ n then .ok n.toNat else mistyped "an unsigned 64 bit or less integer"
  | .text s =>
    match textNumber? s with
    | some n => .ok n
    | none => mistyped "an integer"
  | .bool b => .ok b.toNat
  | .float f => .ok (wholeNumber f)
  | .null _ | .list .. | .table .. => mistyped "an integer"

/-- A number of `bits` bits. -/
def unsigned (bits : Nat) (v : Value) : Except Fault Nat :=
  match natural v with
  | .error f => .error f
  | .ok n =>
    if n < Nat.pow 2 bits then .ok n
    else misfit (.mistyped (.natural n) s!"an unsigned {bits} bit integer" false)

/-- A text, or what a number or truth value is written as. -/
def string (v : Value) : Except Fault String :=
  match v with
  | .text s => .ok s
  | .bool b => .ok (if b then "true" else "false")
  | .integer n => .ok (toString n)
  | .float f => .ok (FloatFormat.double.text f)
  | .null _ | .list .. | .table .. => misfit (.mistyped v.found "a string" v.located)

/-! ### Lists -/

/-- Reads items one after the other, counted from `i`. -/
def readItems {α : Type} (item : Value → Except Fault α) (i : Nat) :
    List Value → Except Fault (List α)
  | [] => .ok []
  | v :: rest => do
    let a ← under (.index i) (item v)
    return a :: (← readItems item (i + 1) rest)

/-- A list whose items are alike. -/
def list {α : Type} (item : Value → Except Fault α) (v : Value) : Except Fault (List α) :=
  match v with
  | .list _ items => readItems item 0 items
  | v => misfit (.unfit v.found "a sequence")

/-- A list of two items; further ones are passed over. -/
def pair {α : Type} (item : Value → Except Fault α) (v : Value) : Except Fault (α × α) := do
  let wanted := "an array of length 2"
  match v with
  | .list _ items =>
    match ← readItems item 0 (items.take 2) with
    | [a, b] => return (a, b)
    | short => misfit (.tooShort short.length wanted)
  | v => misfit (.unfit v.found wanted)

/-! ### Records -/

/-- A kind of record, by its name and the keys of its members in order. -/
structure Record where
  name : String
  keys : List String

namespace Record

/-- The members of a record as they stand in a value: how they are reached, their keys and their
values. -/
def members (r : Record) (v : Value) : Except Fault (List (Step × String × Value)) :=
  match v with
  | .table _ entries => .ok (entries.map fun (key, v) => (.field key, key, v))
  | .list _ items =>
    let numbered := (r.keys.zip items).zipIdx
    .ok (numbered.map fun ((key, v), i) => (.index i, key, v))
  | v => misfit (.unfit v.found s!"struct {r.name}")

/-- Reads a record member by member; `set` says what a member changes. -/
def read {α : Type} (r : Record) (set : α → String → Value → Except Fault α) (start : α)
    (v : Value) : Except Fault α := do
  (← r.members v).foldlM (fun a (step, key, v) => under step (set a key v)) start

/-- A member that every such record has to have. -/
def required {α : Type} (r : Record) (v : Value) (key : String) : Option α → Except Fault α
  | some a => .ok a
  | none =>
    match v with
    | .list .. =>
      misfit (.tooShort (r.keys.idxOf key)
        s!"struct {r.name} with {r.keys.length} elements")
    | _ => under (.field key) (misfit .missing)

end Record

end SampleBank.Config
