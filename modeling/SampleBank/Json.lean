import SampleBank.Floating
import SampleBank.Text.Number

/-!
# JSON

Reading a JSON text. Integers that fit into 64 bits stay integers. Other numbers are read as a
significand of 64 bits, which takes as many digits as it holds, and a power of ten, and are rounded
twice: the significand to the nearest double, and its product with the power of ten again.
-/

namespace SampleBank

/-- A JSON value. Maps keep their entries as they stand in the text. -/
inductive Json
  | null
  | bool (value : Bool)
  | integer (value : Int)
  | float (value : FloatValue)
  | text (value : String)
  | list (items : List Json)
  | map (entries : List (String × Json))

namespace Json

/-- A text without the blanks and line ends before it. -/
def skip (cs : List Char) : List Char :=
  cs.dropWhile fun c => c = ' ' || c = '\t' || c = '\n' || c = '\r'

/-! ### Numbers -/

/-- The powers of ten up to which a significand is scaled at once. -/
def maxScale : Nat := 308

/-- The double nearest to a power of ten. -/
def powerOfTen (n : Nat) : FloatValue := FloatFormat.double.nearest false (Nat.pow 10 n) 1

/-- A double multiplied by a power of ten, or divided by one. -/
def scale (divide : Bool) (v : FloatValue) (n : Nat) : FloatValue :=
  match v, powerOfTen n with
  | .finite negative m e, .finite _ m' e' =>
    if divide then FloatFormat.double.quotient negative m e m' e'
    else FloatFormat.double.product negative m e m' e'
  | v, _ => v

/-- Divides a double by a large power of ten, in steps. -/
def scaleDown : Nat → FloatValue → Nat → FloatValue
  | 0, v, _ => v
  | fuel + 1, v, n =>
    if n ≤ maxScale then scale true v n
    else
      match v with
      | .finite _ 0 _ => v
      | v => scaleDown fuel (scale true v maxScale) (n - maxScale)

/-- The number of a significand and a power of ten; there is none beyond the doubles. -/
def ofParts? (negative : Bool) (significand : Nat) (exponent : Int) : Option FloatValue :=
  let v := FloatFormat.double.nearest negative significand 1
  if exponent < 0 then
    let n := (-exponent).toNat
    some (scaleDown (n / maxScale + 1) v n)
  else if exponent.toNat ≤ maxScale then
    match scale false v exponent.toNat with
    | .finite n m e => some (.finite n m e)
    | _ => none
  else if significand = 0 then some v
  else none

/-- Digits taken into a significand as long as it has room, and the digits that are left. -/
def significand (acc : Nat) : List Char → Nat × List Char
  | [] => (acc, [])
  | c :: rest =>
    let next := acc * 10 + (c.toNat - '0'.toNat)
    if Numeral.maxNat < next then (acc, c :: rest) else significand next rest

/-- The largest exponent that is read. -/
def maxExponent : Nat := 0x7FFFFFFF

/-- The least and the greatest exponent of a significand. -/
def clampExponent (e : Int) : Int := max (-0x80000000) (min e maxExponent)

/-- The exponent behind its letter, and what is left. One that is too large is none. -/
def readExponent? (cs : List Char) : Option (Bool × Option Nat × List Char) :=
  let (negative, cs) := match cs with
    | '+' :: rest => (false, rest)
    | '-' :: rest => (true, rest)
    | cs => (false, cs)
  (Numeral.natural? 10 (cs.takeWhile Numeral.isDigit)).map fun n =>
    (negative, if n ≤ maxExponent then some n else none, cs.dropWhile Numeral.isDigit)

/-- A number from its exponent on: `start` is the exponent that its digits have already. -/
def readScaled? (negative : Bool) (m : Nat) (start : Int) (cs : List Char) :
    Option (Json × List Char) :=
  match cs with
  | c :: rest =>
    if c = 'e' ∨ c = 'E' then
      match readExponent? rest with
      | none => none
      | some (down, some n, rest) =>
        let exponent := clampExponent (if down then start - n else start + n)
        (ofParts? negative m exponent).map fun v => (.float v, rest)
      | some (down, none, rest) =>
        if m ≠ 0 ∧ ¬ down then none
        else some (.float (FloatFormat.double.nearest negative 0 1), rest)
    else (ofParts? negative m start).map fun v => (.float v, cs)
  | [] => (ofParts? negative m start).map fun v => (.float v, [])

/-- A number without its sign. -/
def readNumber? (negative : Bool) (cs : List Char) : Option (Json × List Char) :=
  let whole := cs.takeWhile Numeral.isDigit
  let rest := cs.dropWhile Numeral.isDigit
  if whole = [] ∨ (whole.head? = some '0' ∧ whole.length ≠ 1) then none
  else
    let (m, left) := significand 0 whole
    match rest with
    | '.' :: rest =>
      let places := rest.takeWhile Numeral.isDigit
      let rest := rest.dropWhile Numeral.isDigit
      let (m, unread) := significand m places
      let taken := places.length - unread.length
      if places = [] then none
      else readScaled? negative m ((left.length : Int) - (taken : Int)) rest
    | rest =>
      if left ≠ [] ∨ rest.head? = some 'e' ∨ rest.head? = some 'E' then
        readScaled? negative m left.length rest
      else if negative then
        if m = 0 ∨ -Numeral.minInt < m then
          some (.float (FloatFormat.double.nearest true m 1), rest)
        else some (.integer (-m), rest)
      else some (.integer m, rest)

/-! ### Texts -/

/-- A character from the number of a unit of 16 bits, which may be the first half of a pair. -/
def readUnit? (cs : List Char) : Option (Char × List Char) :=
  let unit? (cs : List Char) : Option (Nat × List Char) :=
    if cs.length < 4 then none
    else (Numeral.natural? 16 (cs.take 4)).map (·, cs.drop 4)
  match unit? cs with
  | none => none
  | some (n, rest) =>
    if n < 0xD800 ∨ 0xE000 ≤ n then some (Char.ofNat n, rest)
    else if 0xDC00 ≤ n then none
    else
      match rest with
      | '\\' :: 'u' :: rest =>
        match unit? rest with
        | none => none
        | some (k, rest) =>
          if 0xDC00 ≤ k ∧ k < 0xE000 then
            some (Char.ofNat (0x10000 + (n - 0xD800) * 0x400 + (k - 0xDC00)), rest)
          else none
      | _ => none

/-- What stands behind a backslash. -/
def readEscape? : List Char → Option (Char × List Char)
  | [] => none
  | c :: rest =>
    match c with
    | '"' | '\\' | '/' => some (c, rest)
    | 'b' => some ('\x08', rest)
    | 'f' => some ('\x0c', rest)
    | 'n' => some ('\n', rest)
    | 'r' => some ('\r', rest)
    | 't' => some ('\t', rest)
    | 'u' => readUnit? rest
    | _ => none

/-- A text up to its closing quote. Control characters may not stand in it. -/
def readText? : Nat → List Char → Option (List Char × List Char)
  | 0, _ => none
  | fuel + 1, cs =>
    match cs with
    | [] => none
    | '"' :: rest => some ([], rest)
    | c :: rest =>
      match
        if c = '\\' then readEscape? rest
        else if c.toNat < 32 then none
        else some (c, rest)
      with
      | none => none
      | some (c, rest) => (readText? fuel rest).map fun (more, rest) => (c :: more, rest)

/-! ### Values -/

/-- How deep lists and maps may be nested. -/
def maxDepth : Nat := 127

/-- A word at the start of a text that stands for a value. -/
def readWord? (word : String) (v : Json) (cs : List Char) : Option (Json × List Char) :=
  if word.toList.isPrefixOf cs then some (v, cs.drop word.length) else none

mutual

/-- A value, and what is left. -/
def readValue? : Nat → Nat → List Char → Option (Json × List Char)
  | 0, _, _ => none
  | fuel + 1, depth, cs =>
    match skip cs with
    | [] => none
    | c :: rest =>
      if c = 'n' then readWord? "null" .null (c :: rest)
      else if c = 't' then readWord? "true" (.bool true) (c :: rest)
      else if c = 'f' then readWord? "false" (.bool false) (c :: rest)
      else if c = '-' then readNumber? true rest
      else if c = '"' then
        (readText? (rest.length + 1) rest).map fun (s, rest) => (.text (String.ofList s), rest)
      else if c = '[' then
        if maxDepth ≤ depth then none
        else
          match skip rest with
          | ']' :: rest => some (.list [], rest)
          | rest => (readItems? fuel (depth + 1) rest).map fun (l, rest) => (.list l, rest)
      else if c = '\x7b' then
        if maxDepth ≤ depth then none
        else
          match skip rest with
          | '\x7d' :: rest => some (.map [], rest)
          | rest => (readEntries? fuel (depth + 1) rest).map fun (l, rest) => (.map l, rest)
      else readNumber? false (c :: rest)

/-- The items of a list, of which there is at least one, up to its end. -/
def readItems? : Nat → Nat → List Char → Option (List Json × List Char)
  | 0, _, _ => none
  | fuel + 1, depth, cs =>
    match readValue? fuel depth cs with
    | none => none
    | some (v, rest) =>
      match skip rest with
      | ',' :: rest => (readItems? fuel depth rest).map fun (more, rest) => (v :: more, rest)
      | ']' :: rest => some ([v], rest)
      | _ => none

/-- The entries of a map, of which there is at least one, up to its end. -/
def readEntries? : Nat → Nat → List Char → Option (List (String × Json) × List Char)
  | 0, _, _ => none
  | fuel + 1, depth, cs =>
    match skip cs with
    | '"' :: rest =>
      match readText? (rest.length + 1) rest with
      | none => none
      | some (key, rest) =>
        match skip rest with
        | ':' :: rest =>
          match readValue? fuel depth rest with
          | none => none
          | some (v, rest) =>
            let entry := (String.ofList key, v)
            match skip rest with
            | ',' :: rest =>
              (readEntries? fuel depth rest).map fun (more, rest) => (entry :: more, rest)
            | '\x7d' :: rest => some ([entry], rest)
            | _ => none
        | _ => none
    | _ => none

end

/-- The value of a JSON text. -/
def read? (cs : List Char) : Option Json :=
  match readValue? (2 * cs.length + 2) 0 cs with
  | some (v, rest) => if skip rest = [] then some v else none
  | none => none

end Json

end SampleBank
