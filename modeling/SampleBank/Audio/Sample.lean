import SampleBank.Audio.Bytes
import SampleBank.Audio.Companding
import SampleBank.Floating

/-!
# Sample codings

How one sample of an audio file is stored, and the 16-bit sample that it becomes. Integer samples of
every width keep their top 16 bits, so 8-bit samples are widened and 24- and 32-bit samples lose
their lowest bits. The reader of containers does so by scaling (`Coding.narrow`), the strict reader
of WAVE files by shifting words (`Coding.shift`). Floating-point samples are clamped to the interval
from `-1` to `1` and then scaled.
-/

namespace SampleBank

/-- Audio, decoded to 16 bits; the samples of the channels alternate. -/
structure DecodedAudio where
  channels : UInt16
  sampleRate : UInt32
  data : List Int16
deriving DecidableEq

/-- The number of whole frames: samples per channel. -/
def DecodedAudio.frames (a : DecodedAudio) : Nat := a.data.length / a.channels.toNat

/-- How a sample is stored. -/
inductive Coding
  /-- Eight bits, offset by 128. -/
  | offset8
  | signed (width : Nat) (order : ByteOrder)
  | float (format : FloatFormat) (order : ByteOrder)
  | alaw
  | mulaw
deriving DecidableEq

namespace Coding

/-- The number of bytes of a sample. -/
def size : Coding → Nat
  | .offset8 | .alaw | .mulaw => 1
  | .signed width _ => width / 8
  | .float format _ => (1 + format.exponentBits + format.fractionBits) / 8

/-- The top 16 bits of a signed sample of `width` bits. -/
def narrow (width : Nat) (sample : Int) : Int16 :=
  Int16.ofInt (sample * 0x10000 / Nat.pow 2 width)

/-- A sample of up to 16 bits is shifted to the left in a word of 16 bits. A wider one is shifted to
the right in a word of 32 bits, which keeps the sign, and then cut to 16. -/
def shift (width : Nat) (sample : Int) : Int16 :=
  if width ≤ 16 then Int16.ofBitVec (BitVec.ofInt 16 sample <<< (16 - width))
  else Int16.ofBitVec (((BitVec.ofInt 32 sample).sshiftRight (width - 16)).setWidth 16)

/-- A floating-point sample scaled by `2 ^ 15` and cut off towards zero. The largest sample is one
less than the scale, and what is not a number is silence. -/
def quantize : FloatValue → Int16
  | .nan => 0
  | .infinite negative => if negative then -32768 else 32767
  | .finite negative mantissa exponent =>
    let magnitude := FloatValue.floorMagnitude mantissa (exponent + 15)
    if negative then Int16.ofInt (-(min magnitude 32768 : Nat))
    else Int16.ofInt (min magnitude 32767 : Nat)

/-- A single-precision sample multiplied by 32767 in single precision and cut off towards zero. What
is not a number is silence. -/
def quantizeSymmetric : FloatValue → Int16
  | .nan => 0
  | .infinite negative => if negative then -32767 else 32767
  | .finite negative mantissa exponent =>
    let magnitude :=
      if 1 ≤ FloatValue.floorMagnitude mantissa exponent then 32767
      else
        let (num, den) := scaled (mantissa * 32767) 2 exponent
        match FloatFormat.single.nearest false num den with
        | .finite _ mantissa exponent => FloatValue.floorMagnitude mantissa exponent
        | _ => 0
    if negative then Int16.ofInt (-(magnitude : Nat)) else Int16.ofInt (magnitude : Nat)

/-- The sample that its bytes stand for. -/
def decode (coding : Coding) (bytes : List UInt8) : Int16 :=
  match coding with
  | .offset8 => narrow 8 ((Bytes.number .little bytes : Nat) - 128)
  | .signed width order => narrow width (Bytes.signed width (Bytes.number order bytes))
  | .float format order => quantize (format.ofBits (Bytes.number order bytes))
  | .alaw => Companding.alaw (bytes.headD 0)
  | .mulaw => Companding.mulaw (bytes.headD 0)

end Coding

end SampleBank
