import SampleBank.Audio.Aiff
import SampleBank.Audio.Wave
import SampleBank.Audio.WaveFile
import SampleBank.Files

/-!
# Decoding audio files

`decodeFile` reads a file by its name: one that ends in `.wav` is read strictly, and in all
others a container is looked for (`findContainer`). The data of a container come in packets of
up to 1152 blocks (`Container.answers`), of which each gives as many frames as it holds but no more
than 1152 (`Track.decodePacket`). A partial frame at the end of a packet is dropped. The packets are
asked for one after the other until there are no more (`collect`).
-/

namespace SampleBank

/-- Why a file is not decoded. -/
inductive DecodeError
  | io (path : FilePath) (cause : IoError)
  | wave (cause : WaveError)
  /-- The file was opened but cannot be read. -/
  | waveIo (cause : IoError)
  | container (cause : ContainerError)
  | noAudioTrack
  | unknownSampleRate
deriving DecidableEq

/-- The message of a failure. -/
def DecodeError.text : DecodeError → String
  | .io path cause => s!"unable to open {path.text}: {cause.text}"
  | .wave (.illFormed fault) => s!"WAV error: Ill-formed WAVE file: {fault.text}"
  | .wave .unsupported => "WAV error: The wave format of the file is not supported."
  | .wave .tooWide => "WAV error: The sample has more bits than the destination type."
  | .wave .endOfFile => "WAV error: Failed to read enough bytes."
  | .wave (.unsupportedBits bits) => s!"unsupported sample width of {bits} bits"
  | .waveIo cause => s!"WAV error: {cause.text}"
  | .container (.malformed fault) => s!"audio file error: malformed stream: {fault.text}"
  | .container (.unsupported feature) =>
    s!"audio file error: unsupported feature: {feature.text}"
  | .container .endOfStream => "audio file error: end of stream"
  | .noAudioTrack => "no audio track found"
  | .unknownSampleRate => "sample rate not specified"

/-! ### Containers -/

/-- The marker of a container, if bytes start with one, and the bytes behind it. -/
def marker? : List UInt8 → Option (ByteOrder × List UInt8)
  | 82 :: 73 :: 70 :: 70 :: rest => some (.little, rest)
  | 70 :: 79 :: 82 :: 77 :: rest => some (.big, rest)
  | _ => none

/-- How many bytes are searched for a marker. -/
def searchLimit : Nat := 1024 * 1024

/-- Looks for the first marker within `left` bytes. -/
def findMarker? : Nat → List UInt8 → Option (ByteOrder × List UInt8)
  | 0, _ => none
  | _ + 1, [] => none
  | left + 1, b :: rest =>
    match marker? (b :: rest) with
    | some found => some found
    | none => findMarker? left rest

/-- Finds and reads the container in a file: `RIFF` announces WAVE and `FORM` announces AIFF. -/
def findContainer (bytes : List UInt8) : Except ContainerError Container :=
  match findMarker? (searchLimit - 1) bytes with
  | none => .error (.unsupported .unknownContainer)
  | some (order, rest) =>
    let read := match order with
      | .little => Wave.readContainer rest.length
      | .big => Aiff.readContainer rest.length
    match read rest with
    | .error e => .error e
    | .ok (container, _) => .ok container

/-- The most blocks of a packet, and the most frames taken from one. -/
def packetBlocks : Nat := 1152

/-- The bytes of the packets in which data come, `blocks` blocks being left. Data that are cut off
give a last packet that is shorter. -/
def packets (blockSize : Nat) : Nat → Nat → List UInt8 → List (List UInt8)
  | 0, _, _ => []
  | fuel + 1, blocks, bytes =>
    if blocks = 0 ∨ bytes = [] then []
    else
      let count := min blocks packetBlocks
      bytes.take (count * blockSize) ::
        packets blockSize fuel (blocks - count) (bytes.drop (count * blockSize))

/-- What a container answers when it is asked for the next packet, other than that there is none. -/
inductive PacketAnswer
  | packet (track : Nat) (bytes : List UInt8)
  /-- The decoder has to start afresh. -/
  | reset
  | failed (cause : ContainerError)

/-- What becomes of a packet. -/
inductive DecodedPacket
  | samples (channels : Nat) (data : List Int16)
  /-- The packet is damaged, and is passed over. -/
  | damaged
  | failed (cause : ContainerError)

/-- Asks for packets until there are no more and decodes those of one track. It answers with the
samples, and with the number of channels that the last packet had, if there was any. The decoders
keep nothing from one packet to the next, so there is nothing to reset. -/
def collect (track : Nat) (decode : List UInt8 → DecodedPacket) (channels : Nat)
    (data : List Int16) : List PacketAnswer → Except ContainerError (Nat × List Int16)
  | [] => .ok (channels, data)
  | .failed cause :: _ => .error cause
  | .reset :: later => collect track decode channels data later
  | .packet number bytes :: later =>
    if number ≠ track then collect track decode channels data later
    else
      match decode bytes with
      | .samples channels more => collect track decode channels (data ++ more) later
      | .damaged => collect track decode channels data later
      | .failed cause => .error cause

/-- The samples of the whole frames of a packet. -/
def Track.packetSamples (track : Track) (packet : List UInt8) : List Int16 :=
  let frames := min packetBlocks (packet.length / (track.channels * track.coding.size))
  (Bytes.groups track.coding.size (frames * track.channels) packet).map track.coding.decode

/-- Decodes a packet. No bytes are damaged in the codings of this track. -/
def Track.decodePacket (track : Track) (packet : List UInt8) : DecodedPacket :=
  .samples track.channels (track.packetSamples packet)

/-- The number of the only track. -/
def Container.trackNumber : Nat := 0

/-- What a container answers, one packet after the other. Without a size for blocks there is no
first packet. -/
def Container.answers (c : Container) : List PacketAnswer :=
  if c.blockSize = 0 then [.failed (.malformed .emptyBlock)]
  else
    (packets c.blockSize (c.bytes.length + 1) (c.dataLength / c.blockSize) c.bytes).map
      (.packet trackNumber)

/-- Decodes a container. -/
def Container.decode (c : Container) : Except DecodeError DecodedAudio :=
  match c.track with
  | none => .error .noAudioTrack
  | some track =>
    match collect trackNumber track.decodePacket track.channels [] c.answers with
    | .error cause => .error (.container cause)
    | .ok (channels, data) =>
      if channels = 0 then .error .noAudioTrack
      else .ok ⟨UInt16.ofNat channels, UInt32.ofNat c.sampleRate, data⟩

/-! ### Files -/

/-- Whether a path ends in `.wav`, in any case. -/
def FilePath.isWave (p : FilePath) : Bool :=
  match p.extensionText? with
  | some ext => ext.map Char.toLower = ['w', 'a', 'v']
  | none => false

/-- Decodes bytes that call themselves WAVE. -/
def decodeWave (bytes : List UInt8) : Except DecodeError DecodedAudio :=
  match WaveFile.decode bytes with
  | .ok audio => .ok audio
  | .error e => .error (.wave e)

/-- Decodes bytes in which a container has to be found. -/
def decodeContainer (bytes : List UInt8) : Except DecodeError DecodedAudio :=
  match findContainer bytes with
  | .error e => .error (.container e)
  | .ok c => c.decode

/-- Decodes the file that a path leads to. A directory can be opened but has nothing to read. -/
def decodeFile (fs : Files) (path : FilePath) : Except DecodeError DecodedAudio :=
  match fs.open path with
  | .error e => .error (.io path e)
  | .ok .directory =>
    if path.isWave then .error (.waveIo .isADirectory)
    else .error (.container (.unsupported .unknownContainer))
  | .ok (.file bytes) => if path.isWave then decodeWave bytes else decodeContainer bytes

end SampleBank
