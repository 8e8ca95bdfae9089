import SampleBank.Audio.Chunk

/-!
# WAVE containers

The reader for WAVE data under any other name. The chunks lie within the length that the file
gives for itself; up to the sample data, a format chunk says how samples are stored, and the
chunks beside it are checked only as far as needed to pass over them.
-/

namespace SampleBank

namespace Wave

open ContainerReader

/-- The next little-endian number of `n` bytes. -/
def number (n : Nat) : ContainerReader Nat := ContainerReader.number .little n

/-- The identifier of a sub-format: two bytes for its kind before fourteen fixed ones. -/
def subFormat (kind : UInt8) : List UInt8 :=
  [kind, 0, 0, 0, 0, 0, 0x10, 0, 0x80, 0, 0, 0xAA, 0, 0x38, 0x9B, 0x71]

/-- Integer samples of a width in bits; 8-bit samples are offset. -/
def integerCoding? (bits : Nat) : Option Coding :=
  if bits = 8 then some .offset8
  else if bits = 16 ∨ bits = 24 ∨ bits = 32 then some (.signed bits .little)
  else none

/-- Floating-point samples of a width in bits. -/
def floatCoding? (bits : Nat) : Option Coding :=
  if bits = 32 then some (.float .single .little)
  else if bits = 64 then some (.float .double .little)
  else none

/-- Puts number of channels and coding together. -/
def track (channels : Nat) (coding : Coding) : ContainerReader Track := do
  checkChannels channels
  return ⟨channels, coding⟩

/-- The rest of a format chunk of integer samples. -/
def integerTrack (length channels bits : Nat) : ContainerReader Track :=
  if length = 16 ∨ length = 18 ∨ length = 40 then do
    skip (length - 16)
    match integerCoding? bits with
    | some coding => track channels coding
    | none => malformed .pcmBits
  else malformed .pcmLength

/-- The rest of a format chunk of floating-point samples. -/
def floatTrack (length channels bits : Nat) : ContainerReader Track :=
  if length = 16 ∨ length = 18 ∨ length = 40 then do
    let extension ← if length = 18 then number 2 else (do skip (length - 16); return 0)
    if extension ≠ 0 then malformed .floatExtension
    else
      match floatCoding? bits with
      | some coding => track channels coding
      | none => malformed .floatBits
  else malformed .floatLength

/-- The rest of a format chunk of companded samples, which has a length of 18. -/
def compandedTrack (coding : Coding) (fault : ContainerFault) (length channels : Nat) :
    ContainerReader Track :=
  if length = 18 then do
    skip (← number 2)
    track channels coding
  else malformed fault

/-- The coding that an extensible format names; `bits` is the room of a sample and `validBits` the
width used. -/
def extensibleCoding (kind : List UInt8) (bits validBits : Nat) : ContainerReader Coding :=
  if kind = subFormat 1 then
    match integerCoding? bits with
    | some coding => return coding
    | none => malformed .extensiblePcmBits
  else if kind = subFormat 3 then
    if validBits ≠ bits then malformed .extensibleFloatValidBits
    else
      match floatCoding? bits with
      | some coding => return coding
      | none => malformed .extensibleFloatBits
  else if kind = subFormat 6 then return .alaw
  else if kind = subFormat 4 then return .mulaw
  else unsupported .extensibleSubFormat

/-- The number of channels that a mask of 32 channel positions names. -/
def maskCount (mask : Nat) : Nat := ((List.range 32).filter mask.testBit).length

/-- The rest of a format chunk that names its kind of samples by an identifier. Channels are counted
by the positions in a mask. -/
def extensibleTrack (length channels bits : Nat) : ContainerReader Track :=
  if length < 40 then malformed .extensibleLength
  else do
    if (← number 2) ≠ 22 then malformed .extensibleExtension
    else
      let validBits ← number 2
      if bits % 8 ≠ 0 then malformed .extensibleBlockBits
      else if bits < validBits then malformed .extensibleBits
      else
        let mask ← number 4
        if maskCount mask ≠ channels then malformed .extensibleMask
        else if Nat.pow 2 maxChannels ≤ mask then unsupported .extensibleMask
        else
          let kind ← take 16
          return ⟨channels, ← extensibleCoding kind bits validBits⟩

/-- What a format chunk says: the track, the sample rate and the size of a block. -/
def readFormat (length : Nat) : ContainerReader (Track × Nat × Nat) :=
  if length < 16 then malformed .formatTooShort
  else do
    let kind ← number 2
    let channels ← number 2
    let sampleRate ← number 4
    skip 4
    let blockSize ← number 2
    let bits ← number 2
    let track ←
      if kind = 1 then integerTrack length channels bits
      else if kind = 3 then floatTrack length channels bits
      else if kind = 6 then compandedTrack .alaw .alawLength length channels
      else if kind = 7 then compandedTrack .mulaw .mulawLength length channels
      else if kind = 0xFFFE then extensibleTrack length channels bits
      else if (kind = 2 ∨ kind = 0x11) ∧ bits ≠ 4 then malformed .adpcmBits
      else unsupported .waveFormat
    return (track, sampleRate, blockSize)

/-- Passes over the entries of a list of remarks. -/
def skipInfo : Nat → ChunkList → ContainerReader Unit
  | 0, list => list.finish
  | fuel + 1, list => do
    match ← list.next .little with
    | none => list.finish
    | some (header, list) =>
      skip header.length
      skipInfo fuel list

/-- Passes over a list chunk: a list of remarks entry by entry, any other as a whole. -/
def skipList (fuel length : Nat) : ContainerReader Unit :=
  if length < 4 then malformed .listTooShort
  else do
    let form ← take 4
    if form = Bytes.ascii "INFO" then skipInfo fuel ⟨length - 4, 0⟩ else skip (length - 4)

/-- Reads the chunks up to the sample data. Each chunk takes eight bytes at least, so `fuel` chunks
are enough for as many bytes. -/
def readChunks : Nat → ChunkList → Option (Track × Nat × Nat) → ContainerReader Container
  | 0, _, _ => ByteReader.fail .endOfStream
  | fuel + 1, list, format => do
    match ← list.next .little with
    | none => unsupported .missingWaveData
    | some (header, list) =>
      if header.name = Bytes.ascii "fmt " then
        let format ← readFormat header.length
        readChunks fuel list (some format)
      else if header.name = Bytes.ascii "fact" then
        if header.length = 4 then
          skip 4
          readChunks fuel list format
        else malformed .factLength
      else if header.name = Bytes.ascii "LIST" then
        skipList fuel header.length
        readChunks fuel list format
      else if header.name = Bytes.ascii "data" then
        let rest ← get
        return {
          track := format.map (·.1)
          sampleRate := (format.map (·.2.1)).getD 0
          blockSize := (format.map (·.2.2)).getD 0
          dataLength := header.length
          bytes := rest
        }
      else
        skip header.length
        readChunks fuel list format

/-- Reads a WAVE container behind its first four bytes. -/
def readContainer (fuel : Nat) : ContainerReader Container := do
  let length ← number 4
  let form ← take 4
  if form = Bytes.ascii "WAVE" then readChunks fuel ⟨length, 0⟩ none
  else unsupported .otherWaveForm

end Wave

end SampleBank
