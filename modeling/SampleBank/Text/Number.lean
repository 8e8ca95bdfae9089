/-!
# Numerals

Numerals as configuration files write them: digits of a base, integers with a sign, and decimals
with a point and an exponent. Reading is all or nothing; a numeral with anything before or
behind it is refused.
-/

namespace SampleBank.Numeral

/-- The value of a digit of a base up to 16. -/
def digit? (base : Nat) (c : Char) : Option Nat :=
  let value? :=
    if '0' ≤ c ∧ c ≤ '9' then some (c.toNat - '0'.toNat)
    else if 'a' ≤ c ∧ c ≤ 'f' then some (c.toNat - 'a'.toNat + 10)
    else if 'A' ≤ c ∧ c ≤ 'F' then some (c.toNat - 'A'.toNat + 10)
    else none
  value?.filter (· < base)

/-- The number that a list of digits spells, counted on from `acc`. -/
def digits? (base : Nat) (acc : Nat) : List Char → Option Nat
  | [] => some acc
  | c :: rest =>
    match digit? base c with
    | some d => digits? base (acc * base + d) rest
    | none => none

/-- A numeral without a sign, of at least one digit. -/
def natural? (base : Nat) (cs : List Char) : Option Nat :=
  if cs = [] then none else digits? base 0 cs

/-- Splits off a sign; whether it is a minus. -/
def splitSign : List Char → Bool × List Char
  | '-' :: rest => (true, rest)
  | '+' :: rest => (false, rest)
  | cs => (false, cs)

/-- Gives a magnitude its sign. -/
def signed (negative : Bool) (n : Nat) : Int := if negative then -n else n

/-- A numeral with an optional sign. -/
def integer? (base : Nat) (cs : List Char) : Option Int :=
  let (negative, magnitude) := splitSign cs
  (natural? base magnitude).map (signed negative)

/-- The least and the greatest 64-bit integer. -/
def minInt : Int := -0x8000000000000000

@[inherit_doc minInt]
def maxInt : Int := 0x7FFFFFFFFFFFFFFF

/-- The greatest number of 64 bits. -/
def maxNat : Nat := 0xFFFFFFFFFFFFFFFF

/-- A numeral of a 64-bit integer. -/
def int64? (base : Nat) (cs : List Char) : Option Int :=
  (integer? base cs).filter fun n => minInt ≤ n ∧ n ≤ maxInt

/-- A numeral of a 64-bit number, with an optional plus. -/
def nat64? (cs : List Char) : Option Nat :=
  let cs := match cs with
    | '+' :: rest => rest
    | cs => cs
  (natural? 10 cs).filter (· ≤ maxNat)

/-- Whether a character is a decimal digit. -/
def isDigit (c : Char) : Bool := '0' ≤ c && c ≤ '9'

/-- The number `± digits · 10 ^ exponent`. -/
structure Decimal where
  negative : Bool
  digits : Nat
  exponent : Int
deriving DecidableEq

/-- The exponent of a decimal: nothing, or `e` with an integer. -/
def exponent? : List Char → Option Int
  | [] => some 0
  | c :: rest => if c = 'e' ∨ c = 'E' then integer? 10 rest else none

/-- A decimal: digits with an optional point and at least one digit around it, a sign before and an
exponent behind them. -/
def decimal? (cs : List Char) : Option Decimal :=
  let (negative, cs) := splitSign cs
  let whole := cs.takeWhile isDigit
  let rest := cs.dropWhile isDigit
  let (places, rest) := match rest with
    | '.' :: rest => (rest.takeWhile isDigit, rest.dropWhile isDigit)
    | rest => ([], rest)
  match natural? 10 (whole ++ places), exponent? rest with
  | some n, some e => some ⟨negative, n, e - places.length⟩
  | _, _ => none

end SampleBank.Numeral
