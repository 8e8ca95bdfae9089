/-!
# Binary floating point

Numbers of the form `± m · 2 ^ e`, exactly: what a bit pattern stands for
(`FloatFormat.ofBits`), the number of a format that is nearest to a fraction
(`FloatFormat.nearest`), the shortest decimal that reads back as a given number
(`FloatFormat.shortest`), and its decimal text (`FloatFormat.text`). All of it is arithmetic
on natural numbers; halves go to the even neighbour.
-/

namespace SampleBank

/-- What a floating-point number stands for. -/
inductive FloatValue
  | nan
  | infinite (negative : Bool)
  /-- The number `mantissa · 2 ^ exponent`, with a sign that zero has too. -/
  | finite (negative : Bool) (mantissa : Nat) (exponent : Int)
deriving DecidableEq

/-- A floating-point format: the widths of its exponent and of its fraction in bits. -/
structure FloatFormat where
  exponentBits : Nat
  fractionBits : Nat
deriving DecidableEq

/-- The 32-bit format. -/
def FloatFormat.single : FloatFormat := ⟨8, 23⟩

/-- The 64-bit format. -/
def FloatFormat.double : FloatFormat := ⟨11, 52⟩

/-- A quotient, rounded to the nearest natural number; halves go to the even neighbour. -/
def roundHalfEven (num den : Nat) : Nat :=
  let low := num / den
  let rem := num % den
  if 2 * rem < den then low
  else if den < 2 * rem then low + 1
  else if low % 2 = 0 then low else low + 1

/-- The fraction `mantissa · base ^ exponent` as numerator and denominator. -/
def scaled (mantissa base : Nat) (exponent : Int) : Nat × Nat :=
  if 0 ≤ exponent then (mantissa * base.pow exponent.toNat, 1)
  else (mantissa, base.pow (-exponent).toNat)

/-- The exponent of the largest power of two that is not above a positive fraction. -/
def floorLog2 (num den : Nat) : Int :=
  let guess : Int := (num.log2 : Int) - (den.log2 : Int)
  let (p, q) := scaled 1 2 guess
  if p * den ≤ num * q then guess else guess - 1

namespace FloatFormat

/-- Significant bits, the leading one included. -/
def precision (f : FloatFormat) : Nat := f.fractionBits + 1

/-- The exponent of the smallest positive number. -/
def minExponent (f : FloatFormat) : Int :=
  2 - Nat.pow 2 (f.exponentBits - 1) - (f.fractionBits : Int)

/-- The exponent of the numbers with the largest spacing. -/
def maxExponent (f : FloatFormat) : Int :=
  Nat.pow 2 (f.exponentBits - 1) - 1 - (f.fractionBits : Int)

/-- What a bit pattern stands for: sign, biased exponent, fraction. -/
def ofBits (f : FloatFormat) (bits : Nat) : FloatValue :=
  let fraction := bits % Nat.pow 2 f.fractionBits
  let biased := bits / Nat.pow 2 f.fractionBits % Nat.pow 2 f.exponentBits
  let negative := bits / Nat.pow 2 (f.fractionBits + f.exponentBits) % 2 = 1
  if biased = Nat.pow 2 f.exponentBits - 1 then
    if fraction = 0 then .infinite negative else .nan
  else if biased = 0 then .finite negative fraction f.minExponent
  else .finite negative (Nat.pow 2 f.fractionBits + fraction) (f.minExponent + biased - 1)

/-- The number of the format that is nearest to a fraction. -/
def nearest (f : FloatFormat) (negative : Bool) (num den : Nat) : FloatValue :=
  if num = 0 then .finite negative 0 f.minExponent
  else
    let exponent := max f.minExponent (floorLog2 num den - f.fractionBits)
    let (p, q) := scaled 1 2 exponent
    let mantissa := roundHalfEven (num * q) (den * p)
    let (mantissa, exponent) :=
      if mantissa = Nat.pow 2 f.precision then (Nat.pow 2 f.fractionBits, exponent + 1)
      else (mantissa, exponent)
    if f.maxExponent < exponent then .infinite negative else .finite negative mantissa exponent

/-- A power of ten beyond which the decimals are too large for the format, and below whose
reciprocal they are nearer to zero than to any other number. -/
def decimalLimit (f : FloatFormat) : Int := Nat.pow 2 (f.exponentBits - 1)

/-- The number nearest to `digits · 10 ^ exponent`. -/
def nearestDecimal (f : FloatFormat) (negative : Bool) (digits : Nat) (exponent : Int) :
    FloatValue :=
  let places : Int := (Nat.toDigits 10 digits).length
  if digits = 0 ∨ exponent + places < -f.decimalLimit then .finite negative 0 f.minExponent
  else if f.decimalLimit < exponent + places then .infinite negative
  else
    let (num, den) := scaled digits 10 exponent
    f.nearest negative num den

/-- The number nearest to the product of two magnitudes. -/
def product (f : FloatFormat) (negative : Bool) (m : Nat) (e : Int) (m' : Nat) (e' : Int) :
    FloatValue :=
  let (num, den) := scaled (m * m') 2 (e + e')
  f.nearest negative num den

/-- The number nearest to the quotient of a magnitude and a positive one. -/
def quotient (f : FloatFormat) (negative : Bool) (m : Nat) (e : Int) (m' : Nat) (e' : Int) :
    FloatValue :=
  let (num, den) := scaled m 2 (e - e')
  f.nearest negative num (den * m')

/-! ### Shortest decimals -/

/-- The fractions that round to a positive number lie between two bounds, which belong to them
when the mantissa is even. Number and bounds are given as numerators over one denominator. -/
structure Interval where
  value : Nat
  low : Nat
  high : Nat
  denominator : Nat
  closed : Bool

/-- The interval of a positive number. Below a power of two the numbers lie twice as close. -/
def interval (f : FloatFormat) (mantissa : Nat) (exponent : Int) : Interval :=
  let (num, den) := scaled 1 2 (exponent - 2)
  let below :=
    if mantissa = Nat.pow 2 f.fractionBits ∧ f.minExponent < exponent then 1 else 2
  ⟨4 * mantissa * num, (4 * mantissa - below) * num, (4 * mantissa + 2) * num, den,
    mantissa % 2 = 0⟩

/-- Whether the fraction `num / den` lies in the interval. -/
def Interval.contains (i : Interval) (num den : Nat) : Bool :=
  if i.closed then i.low * den ≤ num * i.denominator && num * i.denominator ≤ i.high * den
  else i.low * den < num * i.denominator && num * i.denominator < i.high * den

/-- The decimal on the grid of multiples of `10 ^ exponent` that lies in the interval and is
nearest to its number, the upper one of two that are equally near. -/
def Interval.onGrid? (i : Interval) (exponent : Int) : Option (Nat × Int) :=
  let (p, q) := scaled 1 10 exponent
  let below := i.value * q / (i.denominator * p)
  let hit (n : Nat) : Bool := i.contains (n * p) q
  let nearBelow := 2 * (i.value * q) < (2 * below + 1) * (i.denominator * p)
  if hit below && (nearBelow || !hit (below + 1)) then some (below, exponent)
  else if hit (below + 1) then some (below + 1, exponent)
  else none

/-- The least exponent with `num / den < 10 ^ exponent`, searched upwards from `start`. -/
def decimalCeiling (num den : Nat) (start : Int) : Nat → Int
  | 0 => start
  | fuel + 1 =>
    let (p, q) := scaled 1 10 start
    if num * q < den * p then start else decimalCeiling num den (start + 1) fuel

/-- Tries grids of more and more digits; `left` counts the digits that may still be added. -/
def Interval.search (i : Interval) (exponent : Int) : Nat → Nat × Int
  | 0 => (i.value / i.denominator, 0)
  | left + 1 =>
    match i.onGrid? exponent with
    | some hit => hit
    | none => i.search (exponent - 1) left

/-- The shortest decimal `digits · 10 ^ exponent` that reads back as a positive number; among the
shortest the nearest, and the upper one of two that are equally near. -/
def shortest (f : FloatFormat) (mantissa : Nat) (exponent : Int) : Nat × Int :=
  let i := f.interval mantissa exponent
  let start := (floorLog2 i.value i.denominator * 30103 / 100000) - 1
  i.search (decimalCeiling i.value i.denominator start 4) 20

/-- The text of a decimal without an exponent: `120`, `1.25`, `0.003`. -/
def positional (digits : Nat) (exponent : Int) : String :=
  let ds := Nat.toDigits 10 digits
  if 0 ≤ exponent then
    String.ofList (ds ++ List.replicate (if digits = 0 then 0 else exponent.toNat) '0')
  else
    let places := (-exponent).toNat
    let ds := List.replicate (places + 1 - ds.length) '0' ++ ds
    let cut := ds.length - places
    String.ofList (ds.take cut ++ '.' :: ds.drop cut)

/-- The text of a number of the format: the shortest decimal, without an exponent. -/
def text (f : FloatFormat) : FloatValue → String
  | .nan => "NaN"
  | .infinite negative => if negative then "-inf" else "inf"
  | .finite negative mantissa exponent =>
    let sign := if negative then "-" else ""
    if mantissa = 0 then sign ++ "0"
    else
      let (digits, exponent) := f.shortest mantissa exponent
      sign ++ positional digits exponent

end FloatFormat

/-- Rounds a magnitude to the nearest natural number; halves go up. -/
def FloatValue.roundMagnitude (mantissa : Nat) (exponent : Int) : Nat :=
  let (num, den) := scaled mantissa 2 exponent
  (2 * num + den) / (2 * den)

/-- The whole part of a magnitude. -/
def FloatValue.floorMagnitude (mantissa : Nat) (exponent : Int) : Nat :=
  let (num, den) := scaled mantissa 2 exponent
  num / den

end SampleBank
