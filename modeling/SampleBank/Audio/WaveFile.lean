import SampleBank.Audio.Sample

/-!
# Wave files, read strictly

The reader for files that call themselves WAVE. It walks the chunks of a RIFF file up to the
sample data and checks the description of the samples in a fixed order (`WaveFile.checkFormat`
and the three families of formats behind it); the first fault found is the one reported. Chunks
that it does not know are skipped by exactly their length. The data have to be whole samples and
whole frames, and all of them have to be there.
-/

namespace SampleBank

/-- What is wrong with a file that is not a well-formed WAVE file. -/
inductive WaveFault
  | noRiffTag
  | noWaveTag
  | missingFormat
  | formatTooShort
  | noChannels
  | bitsExceedSample
  | inconsistentRate
  | bitsNotWholeBytes
  | zeroBits
  | unexpectedFormatSize
  | bitsNot8Or16
  | unexpectedExtensionSize
  | bitsNot32
  | unexpectedExtensibleSize
  | partialSample
  | partialFrame
deriving DecidableEq

/-- What a fault is called. -/
def WaveFault.text : WaveFault → String
  | .noRiffTag => "no RIFF tag found"
  | .noWaveTag => "no WAVE tag found"
  | .missingFormat => "missing fmt chunk"
  | .formatTooShort => "invalid fmt chunk size"
  | .noChannels => "file contains zero channels"
  | .bitsExceedSample => "sample bits exceeds size of sample"
  | .inconsistentRate => "inconsistent fmt chunk"
  | .bitsNotWholeBytes => "bits per sample is not a multiple of 8"
  | .zeroBits => "bits per sample is 0"
  | .unexpectedFormatSize => "unexpected fmt chunk size"
  | .bitsNot8Or16 => "bits per sample is not 8 or 16"
  | .unexpectedExtensionSize => "unexpected WAVEFORMATEX size"
  | .bitsNot32 => "bits per sample is not 32"
  | .unexpectedExtensibleSize => "unexpected WAVEFORMATEXTENSIBLE size"
  | .partialSample => "data chunk length is not a multiple of sample size"
  | .partialFrame => "invalid data chunk length"

/-- Why a WAVE file is refused. -/
inductive WaveError
  | illFormed (fault : WaveFault)
  | unsupported
  | tooWide
  | endOfFile
  /-- A sample width for which there is no 16-bit form; the one refusal that names the width. -/
  | unsupportedBits (bits : Nat)
deriving DecidableEq

namespace WaveFile

/-- A reader of a WAVE file. -/
abbrev Reader := ByteReader WaveError

/-- The next `n` bytes. -/
def take (n : Nat) : Reader (List UInt8) := ByteReader.take .endOfFile n

/-- The next number of `n` bytes. -/
def number (n : Nat) : Reader Nat := do return Bytes.littleEndian (← take n)

/-- Reports a fault. -/
def illFormed {α : Type} (fault : WaveFault) : Reader α := ByteReader.fail (.illFormed fault)

/-- How the samples of a file are described: `bytes` is the room each one takes, `bits` its
width. -/
structure Format where
  channels : Nat
  sampleRate : Nat
  bytes : Nat
  bits : Nat
  float : Bool
deriving DecidableEq

/-! ### The format chunk -/

/-- The identifier of a sub-format: two bytes for its kind before fourteen fixed ones. -/
def subFormat (kind : UInt8) : List UInt8 :=
  [kind, 0, 0, 0, 0, 0, 0x10, 0, 0x80, 0, 0, 0xAA, 0, 0x38, 0x9B, 0x71]

/-- Checks the fields that every format has; `align` is the size of a frame. -/
def checkFormat (channels sampleRate byteRate align bits : Nat) : Except WaveFault Unit :=
  if channels = 0 then .error .noChannels
  else if 0x10000 ≤ align / channels * 8 ∨ align / channels * 8 < bits then
    .error .bitsExceedSample
  else if byteRate ≠ align * sampleRate then .error .inconsistentRate
  else if bits % 8 ≠ 0 then .error .bitsNotWholeBytes
  else if bits = 0 then .error .zeroBits
  else .ok ()

/-- The rest of a format chunk of integer samples. -/
def integerFormat (length : Nat) (f : Format) : Reader Format :=
  if length = 16 then return f
  else if length = 18 ∨ length = 40 then do
    let _ ← take 2
    if f.bits = 8 ∨ f.bits = 16 ∨ f.bits = 24 then
      let _ ← take (length - 18)
      return f
    else illFormed .bitsNot8Or16
  else illFormed .unexpectedFormatSize

/-- The rest of a format chunk of floating-point samples. -/
def floatFormat (length : Nat) (f : Format) : Reader Format :=
  if length = 16 ∨ length = 18 then do
    let extension ← if length = 18 then number 2 else pure 0
    if extension ≠ 0 then illFormed .unexpectedExtensionSize
    else if f.bits ≠ 32 then illFormed .bitsNot32
    else return { f with float := true }
  else illFormed .unexpectedFormatSize

/-- The rest of a format chunk whose kind of samples is given by an identifier; a width given there
replaces the first one unless it is zero. -/
def extensibleFormat (length : Nat) (f : Format) : Reader Format :=
  if length < 40 then illFormed .unexpectedFormatSize
  else do
    let extension ← number 2
    if extension ≠ 22 then illFormed .unexpectedExtensibleSize
    else
      let validBits ← number 2
      let _ ← take 4
      let kind ← take 16
      let f := if validBits = 0 then f else { f with bits := validBits }
      if kind = subFormat 1 then return f
      else if kind = subFormat 3 then return { f with float := true }
      else ByteReader.fail .unsupported

/-- Reads a format chunk of a given length. -/
def readFormat (length : Nat) : Reader Format :=
  if length < 16 then illFormed .formatTooShort
  else do
    let kind ← number 2
    let channels ← number 2
    let sampleRate ← number 4
    let byteRate ← number 4
    let align ← number 2
    let bits ← number 2
    match checkFormat channels sampleRate byteRate align bits with
    | .error fault => illFormed fault
    | .ok () =>
      let f : Format := ⟨channels, sampleRate, align / channels, bits, false⟩
      if kind = 1 then integerFormat length f
      else if kind = 3 then floatFormat length f
      else if kind = 0xFFFE then extensibleFormat length f
      else ByteReader.fail .unsupported

/-! ### The samples -/

/-- Reads the chunks up to the sample data, and returns the last format seen and the length of the
data. Each chunk takes eight bytes at least, so `fuel` chunks are enough for as many bytes. -/
def readUntilData : Nat → Option Format → Reader (Format × Nat)
  | 0, _ => ByteReader.fail .endOfFile
  | fuel + 1, format => do
    let id ← take 4
    let length ← number 4
    if id = Bytes.ascii "fmt " then
      let format ← readFormat length
      readUntilData fuel (some format)
    else if id = Bytes.ascii "fact" then
      let _ ← take 4
      readUntilData fuel format
    else if id = Bytes.ascii "data" then
      match format with
      | some format => return (format, length)
      | none => illFormed .missingFormat
    else
      let _ ← take length
      readUntilData fuel format

/-- The width of integer samples, if they can be read: for each width there is a room, and samples
of 24 bits may have more than they need. They are read into two bytes up to a width of 16 bits and
into four bytes beyond; more room than that is too wide. -/
def integerWidth (f : Format) : Except WaveError Nat :=
  match f.bytes, f.bits with
  | 1, 8 => .ok 8
  | 2, 16 => .ok 16
  | 3, 24 | 4, 24 => .ok 24
  | 4, 32 => .ok 32
  | bytes, bits =>
    if (if bits ≤ 16 then 2 else 4) < bytes then .error .tooWide else .error .unsupported

/-- The number that a sample stands for. Samples of 8 bits are offset by 128, and all others are
signed. Only the low bytes count of a sample that has more room than it needs. -/
def integerSample (width : Nat) (bytes : List UInt8) : Int :=
  if width = 8 then (Bytes.littleEndian bytes : Nat) - 128
  else Bytes.signed width (Bytes.littleEndian (bytes.take (width / 8)))

/-- How a sample of a file becomes 16 bits. -/
def sampleDecoder (f : Format) : Except WaveError (List UInt8 → Int16) :=
  if f.float then
    if f.bytes = 4 ∧ f.bits = 32 then
      .ok fun bytes =>
        Coding.quantizeSymmetric (FloatFormat.single.ofBits (Bytes.littleEndian bytes))
    else if 4 < f.bytes then .error .tooWide
    else .error .unsupported
  else
    match integerWidth f with
    | .error e => .error e
    | .ok width => .ok fun bytes => Coding.shift width (integerSample width bytes)

/-- Reads samples from the start of the data. Nothing is wrong with any coding while there are no
samples. -/
def readSamples (f : Format) (count : Nat) (bytes : List UInt8) : Except WaveError (List Int16) :=
  if f.float = false ∧ 32 < f.bits then .error (.unsupportedBits f.bits)
  else if count = 0 then .ok []
  else
    match sampleDecoder f with
    | .error e => .error e
    | .ok decode =>
      if count * f.bytes ≤ bytes.length then .ok ((Bytes.groups f.bytes count bytes).map decode)
      else .error .endOfFile

/-- Reads the tags of a WAVE file and all up to its samples. -/
def readHeader (fuel : Nat) : Reader (Format × Nat) := do
  if (← take 4) ≠ Bytes.ascii "RIFF" then illFormed .noRiffTag
  else
    let _ ← take 4
    if (← take 4) ≠ Bytes.ascii "WAVE" then illFormed .noWaveTag
    else readUntilData fuel none

/-- Decodes a WAVE file. -/
def decode (bytes : List UInt8) : Except WaveError DecodedAudio :=
  match readHeader bytes.length bytes with
  | .error e => .error e
  | .ok ((f, length), rest) =>
    if length % f.bytes ≠ 0 then .error (.illFormed .partialSample)
    else if length / f.bytes % f.channels ≠ 0 then .error (.illFormed .partialFrame)
    else
      match readSamples f (length / f.bytes) rest with
      | .error e => .error e
      | .ok data => .ok ⟨UInt16.ofNat f.channels, UInt32.ofNat f.sampleRate, data⟩

end WaveFile

end SampleBank
