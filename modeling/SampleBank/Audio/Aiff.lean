import SampleBank.Audio.Chunk

/-!
# AIFF containers

The reader for AIFF and AIFC data. A common chunk says how samples are stored, AIFC adding a
type of compression; the sound chunk holds the samples. The length of the sound chunk counts
the eight bytes before the samples too, and the data are taken to be that long, so up to eight
bytes behind the chunk are samples as well.
-/

namespace SampleBank

namespace Aiff

open ContainerReader

/-- The next big-endian number of `n` bytes. -/
def number (n : Nat) : ContainerReader Nat := ContainerReader.number .big n

/-- A number that is cut off towards zero and kept within 32 bits: not above its greatest value, and
not below zero. -/
def saturate (negative : Bool) (mantissa : Nat) (exponent : Int) : Nat :=
  if negative then 0 else min 0xFFFFFFFF (FloatValue.floorMagnitude mantissa exponent)

/-- A sample rate in the 80-bit format: a sign and fifteen bits of exponent before 64 bits of
mantissa with their leading bit. Where the exponent is all ones the rate is no number, or
boundless. -/
def rate (bytes : List UInt8) : Nat :=
  let bits := Bytes.number .big bytes
  let mantissa : Nat := bits % Nat.pow 2 64
  let biased : Nat := bits / Nat.pow 2 64 % Nat.pow 2 15
  let negative : Bool := bits / Nat.pow 2 79 % 2 = 1
  if biased = 0x7FFF then
    if mantissa % Nat.pow 2 63 = 0 ∧ negative = false then 0xFFFFFFFF else 0
  else
    let (num, den) := scaled mantissa 2 ((biased : Int) - 16383 - 63)
    match FloatFormat.double.nearest negative num den with
    | .finite negative mantissa exponent => saturate negative mantissa exponent
    | .infinite negative => if negative then 0 else 0xFFFFFFFF
    | .nan => 0

/-- Integer samples of a width in bits. -/
def integerTrack (channels bits : Nat) : ContainerReader Track :=
  if bits = 8 ∨ bits = 16 ∨ bits = 24 ∨ bits = 32 then do
    checkChannels channels
    return ⟨channels, .signed bits .big⟩
  else malformed .aiffBits

/-- Integer samples of 16 bits in either order. -/
def wordTrack (order : ByteOrder) (fault : ContainerFault) (channels bits : Nat) :
    ContainerReader Track :=
  if bits = 16 then do
    checkChannels channels
    return ⟨channels, .signed 16 order⟩
  else malformed fault

/-- Floating-point samples of a width in bits. -/
def floatTrack (channels bits : Nat) : ContainerReader Track :=
  if bits = 32 then do
    checkChannels channels
    return ⟨channels, .float .single .big⟩
  else if bits = 64 then do
    checkChannels channels
    return ⟨channels, .float .double .big⟩
  else malformed .aiffFloatBits

/-- Companded samples. -/
def compandedTrack (coding : Coding) (channels : Nat) : ContainerReader Track := do
  checkChannels channels
  return ⟨channels, coding⟩

/-- The track of a type of compression. -/
def compressedTrack (type : List UInt8) (channels bits : Nat) : ContainerReader Track :=
  if type = Bytes.ascii "NONE" ∨ type = Bytes.ascii "none" then integerTrack channels bits
  else if type = Bytes.ascii "alaw" then compandedTrack .alaw channels
  else if type = Bytes.ascii "ulaw" then compandedTrack .mulaw channels
  else if type = Bytes.ascii "fl32" ∨ type = Bytes.ascii "fl64" then floatTrack channels bits
  else if type = Bytes.ascii "sowt" then wordTrack .little .swappedBits channels bits
  else if type = Bytes.ascii "twos" then wordTrack .big .twosBits channels bits
  else unsupported .aiffCompression

/-- Passes over a name behind its length; both together take an even number of bytes. -/
def skipName : ContainerReader Unit := do
  let length ← number 1
  skip length
  if length % 2 = 0 then skip 1

/-- What a common chunk says in a file of the given form: the track, the sample rate and the size of
a block. -/
def readCommon (form : List UInt8) : ContainerReader (Track × Nat × Nat) :=
  if form = Bytes.ascii "AIFF" ∨ form = Bytes.ascii "AIFC" then do
    let channels ← number 2
    skip 4
    let bits ← number 2
    let sampleRate := rate (← take 10)
    let track ←
      if form = Bytes.ascii "AIFC" then do
        let type ← take 4
        skipName
        compressedTrack type channels bits
      else integerTrack channels bits
    return (track, sampleRate, channels * bits % 0x10000 / 8)
  else unsupported .otherAiffForm

/-- Reads the chunks up to the samples. Each chunk takes eight bytes at least, so `fuel` chunks are
enough for as many bytes. -/
def readChunks (form : List UInt8) :
    Nat → ChunkList → Option (Track × Nat × Nat) → ContainerReader Container
  | 0, _, _ => ByteReader.fail .endOfStream
  | fuel + 1, list, format => do
    match ← list.next .big with
    | none => unsupported .missingAiffSound
    | some (header, list) =>
      if header.name = Bytes.ascii "COMM" then
        let format ← readCommon form
        readChunks form fuel list (some format)
      else if header.name = Bytes.ascii "SSND" then
        let offset ← number 4
        let blockSize ← number 4
        if offset ≠ 0 ∨ blockSize ≠ 0 then unsupported .aiffBlocks
        else
          let rest ← get
          return {
            track := format.map (·.1)
            sampleRate := (format.map (·.2.1)).getD 0
            blockSize := (format.map (·.2.2)).getD 0
            dataLength := header.length
            bytes := rest
          }
      else
        skip header.length
        readChunks form fuel list format

/-- Reads an AIFF container behind its first four bytes. -/
def readContainer (fuel : Nat) : ContainerReader Container := do
  let length ← number 4
  let form ← take 4
  readChunks form fuel ⟨length, 0⟩ none

end Aiff

end SampleBank
