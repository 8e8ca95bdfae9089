/-!
# Companded samples

The two logarithmic codes of telephony. A code has a sign bit, a segment of three bits and a
step of four bits; segments double in step size, so that small samples are kept more finely
than large ones.
-/

namespace SampleBank.Companding

/-- The sample of an A-law code. Every second bit of the code is inverted; segment 0 is as fine as
segment 1, and a set sign bit means a positive sample. -/
def alaw (code : UInt8) : Int16 :=
  let bits := (code ^^^ 0x55).toNat
  let step : Nat := bits % 16 * 16
  let segment := bits / 16 % 8
  let magnitude : Nat :=
    if segment = 0 then step + 8 else (step + 264) <<< (segment - 1)
  if bits / 128 = 1 then Int16.ofInt magnitude else Int16.ofInt (-magnitude)

/-- The sample of a mu-law code. All bits of the code are inverted, magnitudes are offset by 132,
and a set sign bit means a negative sample. -/
def mulaw (code : UInt8) : Int16 :=
  let bits := (code ^^^ 0xFF).toNat
  let magnitude : Int := ((bits % 16 * 8 + 132) <<< (bits / 16 % 8) : Nat) - 132
  if bits / 128 = 1 then Int16.ofInt (-magnitude) else Int16.ofInt magnitude

end SampleBank.Companding
