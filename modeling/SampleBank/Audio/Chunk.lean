import SampleBank.Audio.Sample

/-!
# Chunks of a container

Audio containers are lists of chunks: a name of four bytes, a length, and as many bytes of
content. A `ChunkList` keeps count of how many bytes of such a list have been spoken for, by
which it decides whether another chunk follows and whether its length fits
(`ChunkList.next`). A chunk of odd length is followed by one byte of padding.

The reader of a chunk's content takes what it needs, which may be less or more than the length
says; the list counts lengths, not bytes.
-/

namespace SampleBank

/-- What is malformed in a container. -/
inductive ContainerFault
  | chunkTooLong
  | channelCount
  | emptyBlock
  | formatTooShort
  | factLength
  | listTooShort
  | pcmLength
  | pcmBits
  | floatLength
  | floatExtension
  | floatBits
  | alawLength
  | mulawLength
  | adpcmBits
  | extensibleLength
  | extensibleExtension
  | extensibleBlockBits
  | extensibleBits
  | extensibleMask
  | extensiblePcmBits
  | extensibleFloatValidBits
  | extensibleFloatBits
  | aiffBits
  | swappedBits
  | twosBits
  | aiffFloatBits
deriving DecidableEq

/-- What a fault is called. -/
def ContainerFault.text : ContainerFault → String
  | .chunkTooLong => "riff: chunk length exceeds parent (list) chunk length"
  | .channelCount => "riff: invalid channel count"
  | .emptyBlock => "riff: block size is 0"
  | .formatTooShort => "wav: malformed fmt chunk"
  | .factLength => "wav: malformed fact chunk"
  | .listTooShort => "wav: malformed list chunk"
  | .pcmLength => "wav: malformed fmt_pcm chunk"
  | .pcmBits => "wav: bits per sample for fmt_pcm must be 8, 16, 24 or 32 bits"
  | .floatLength => "wav: malformed fmt_ieee chunk"
  | .floatExtension => "wav: extra data not expected for fmt_ieee chunk"
  | .floatBits => "wav: bits per sample for fmt_ieee must be 32 or 64 bits"
  | .alawLength => "wav: malformed fmt_alaw chunk"
  | .mulawLength => "wav: malformed fmt_mulaw chunk"
  | .adpcmBits => "wav: bits per sample for fmt_adpcm must be 4 bits"
  | .extensibleLength => "wav: malformed fmt_ext chunk"
  | .extensibleExtension => "wav: extra data size not 22 bytes for fmt_ext chunk"
  | .extensibleBlockBits =>
    "wav: bits per coded sample for fmt_ext must be a multiple of 8 bits"
  | .extensibleBits => "wav: bits per sample must be <= bits per coded sample for fmt_ext"
  | .extensibleMask => "wav: channel mask mismatch with number of channels for fmt_ext"
  | .extensiblePcmBits => "wav: bits per sample for fmt_ext PCM sub-type must be <= 32 bits"
  | .extensibleFloatValidBits =>
    "wav: bits per sample for fmt_ext IEEE sub-type must equal bits per coded sample"
  | .extensibleFloatBits =>
    "wav: bits per sample for fmt_ext IEEE sub-type must be 32 or 64 bits"
  | .aiffBits => "aiff: bits per sample for pcm must be 8, 16, 24 or 32 bits"
  | .swappedBits => "aiff: bits per sample for sowt must be 16 bits"
  | .twosBits => "aiff: bits per sample for twos must be 16 bits"
  | .aiffFloatBits => "aifc: bits per sample for fmt_ieee must be 32 or 64 bits"

/-- What a container uses that is not supported. -/
inductive ContainerFeature
  | unknownContainer
  | otherWaveForm
  | missingWaveData
  | waveFormat
  | extensibleMask
  | extensibleSubFormat
  | otherAiffForm
  | missingAiffSound
  | aiffCompression
  | aiffBlocks
deriving DecidableEq

/-- What a feature is called. -/
def ContainerFeature.text : ContainerFeature → String
  | .unknownContainer => "core (probe): no suitable format reader found"
  | .otherWaveForm => "wav: riff form is not wave"
  | .missingWaveData => "wav: missing data chunk"
  | .waveFormat => "wav: unsupported wave format"
  | .extensibleMask => "wav: too many channels in mask for fmt_ext"
  | .extensibleSubFormat => "wav: unsupported fmt_ext sub-type"
  | .otherAiffForm => "aiff: riff form is not supported"
  | .missingAiffSound => "aiff: missing sound chunk"
  | .aiffCompression => "aifc: Compression type not implemented"
  | .aiffBlocks => "riff: No support for AIFF block-aligned data"

/-- Why a container is refused. -/
inductive ContainerError
  | malformed (fault : ContainerFault)
  | unsupported (feature : ContainerFeature)
  | endOfStream
deriving DecidableEq

/-- A reader of a container. -/
abbrev ContainerReader := ByteReader ContainerError

namespace ContainerReader

/-- The next `n` bytes. -/
def take (n : Nat) : ContainerReader (List UInt8) := ByteReader.take .endOfStream n

/-- The next number of `n` bytes. -/
def number (order : ByteOrder) (n : Nat) : ContainerReader Nat := do
  return Bytes.number order (← take n)

/-- Passes over `n` bytes. -/
def skip (n : Nat) : ContainerReader Unit := do let _ ← take n

/-- Reports a fault. -/
def malformed {α : Type} (fault : ContainerFault) : ContainerReader α :=
  ByteReader.fail (.malformed fault)

/-- Reports a feature that is not supported. -/
def unsupported {α : Type} (feature : ContainerFeature) : ContainerReader α :=
  ByteReader.fail (.unsupported feature)

end ContainerReader

open ContainerReader

/-- A chunk's name and the length of its content. -/
structure ChunkHeader where
  name : List UInt8
  length : Nat
deriving DecidableEq

/-- A list of chunks: how long it is said to be, and how much of that is spoken for. -/
structure ChunkList where
  length : Nat
  consumed : Nat
deriving DecidableEq

namespace ChunkList

/-- The largest length, by which a stream of unknown length is described. -/
def unbounded : Nat := 0xFFFFFFFF

/-- The header of the next chunk, or nothing at the end of the list. A chunk may not be longer than
what is left of the list, unless both are unbounded. -/
def next (order : ByteOrder) (list : ChunkList) :
    ContainerReader (Option (ChunkHeader × ChunkList)) := do
  let consumed ← if list.consumed % 2 = 1 then (do skip 1; return list.consumed + 1)
    else pure list.consumed
  if list.length < consumed + 8 then return none
  else
    let name ← take 4
    let length ← number order 4
    if list.length - (consumed + 8) < length ∧
        ¬ (list.length = length ∧ length = unbounded) then
      malformed .chunkTooLong
    else return some (⟨name, length⟩, ⟨list.length, min unbounded (consumed + 8 + length)⟩)

/-- Passes over what is left of a list. -/
def finish (list : ChunkList) : ContainerReader Unit := do
  skip (list.length - list.consumed)
  if max list.length list.consumed % 2 = 1 then skip 1

end ChunkList

/-- The highest number of channels. -/
def maxChannels : Nat := 26

/-- How the samples behind a chunk list are stored: the room of a frame in the stream is
`blockSize`, which need not be the size of the frame's samples. -/
structure Track where
  channels : Nat
  coding : Coding
deriving DecidableEq

/-- Checks a number of channels. -/
def checkChannels (channels : Nat) : ContainerReader Unit :=
  if 1 ≤ channels ∧ channels ≤ maxChannels then return () else malformed .channelCount

/-- What a container holds: its track if it describes one, the sample rate, the size of a block, and
the data, which end after `dataLength` bytes or with the stream. -/
structure Container where
  track : Option Track
  sampleRate : Nat
  blockSize : Nat
  dataLength : Nat
  bytes : List UInt8
deriving DecidableEq

end SampleBank
