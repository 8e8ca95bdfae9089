import SampleBank.Proofs.Audio.Packets
import SampleBank.Proofs.Audio.Strict

/-!
# Two readings of a file of integer samples

A `PcmFile` is a canonical WAVE file of integer samples: a format chunk of 16 bytes, then the data,
and nothing else but a padding byte. `PcmFile.audio` is what it holds: its data cut into samples,
each one decoded by itself.

To the strict reader it is a canonical file like any other (`PcmFile.decodeWave_bytes`). The reader
of containers finds the same header, chunk by chunk (`PcmFile.readContainer_eq`), and gets the
samples in packets of at most 1152 blocks, which together are the samples of the data
(`PcmFile.decodeContainer_bytes`). The one shifts words and the other scales numbers, but by which
name such a file is read does not matter.
-/

namespace SampleBank

open Bytes ByteReader

/-! ### Canonical files -/

/-- What a canonical file of integer samples consists of. All lengths fit their fields. -/
structure PcmFile where
  channels : Nat
  sampleRate : Nat
  /-- The number of bytes of a sample. -/
  size : Nat
  data : List UInt8
  /-- The byte that may follow data of odd length. -/
  padding : List UInt8
  one_le_channels : 1 ≤ channels
  one_le_size : 1 ≤ size
  size_le : size ≤ 4
  align_lt : channels * size < 2 ^ 16
  byteRate_lt : channels * size * sampleRate < 2 ^ 32
  whole_frames : channels * size ∣ data.length
  padding_le : padding.length ≤ data.length % 2
  length_lt : 36 + data.length + padding.length < 2 ^ 32

namespace PcmFile

variable (f : PcmFile)

/-- The size of a frame. -/
def align : Nat := f.channels * f.size

/-- The content of the format chunk. -/
def format : List UInt8 :=
  ofNumber 2 1 ++ (ofNumber 2 f.channels ++ (ofNumber 4 f.sampleRate ++
    (ofNumber 4 (f.align * f.sampleRate) ++ (ofNumber 2 f.align ++ ofNumber 2 (8 * f.size)))))

/-- The whole file. -/
def bytes : List UInt8 :=
  chunk "RIFF" (ascii "WAVE" ++ (chunk "fmt " f.format ++ (chunk "data" f.data ++ f.padding)))

/-- How its samples are stored. -/
def coding : Coding := if f.size = 1 then .offset8 else .signed (8 * f.size) .little

/-- The samples of the file. -/
def samples : List Int16 := (groups f.size (f.data.length / f.size) f.data).map f.coding.decode

/-- The audio that it holds. -/
def audio : DecodedAudio := ⟨UInt16.ofNat f.channels, UInt32.ofNat f.sampleRate, f.samples⟩

@[simp] theorem data_audio : f.audio.data = f.samples := rfl

/-- What the format chunk describes. -/
def description : PcmFormat where
  channels := f.channels
  sampleRate := f.sampleRate
  size := f.size
  one_le_channels := f.one_le_channels
  one_le_size := f.one_le_size
  size_le := f.size_le
  align_lt := f.align_lt
  byteRate_lt := f.byteRate_lt

@[simp] theorem length_format : f.format.length = 16 := f.description.length_content

theorem align_pos : 0 < f.align := f.description.align_pos

/-- Coding and description mean the same room for a sample. -/
theorem coding_size : f.coding.size = f.size := f.description.coding_size

/-- A sample of any width is one of four kinds. -/
theorem size_cases : f.size = 1 ∨ f.size = 2 ∨ f.size = 3 ∨ f.size = 4 := f.description.size_cases

/-- The samples make whole frames. -/
theorem samples_eq_frames : f.data.length / f.size = f.data.length / f.align * f.channels :=
  (f.description.samples_eq_frames f.whole_frames).2

/-- The length of the first chunk, which is all that stands behind its own header. -/
theorem riff_length :
    (ascii "WAVE" ++ (chunk "fmt " f.format ++ (chunk "data" f.data ++ f.padding))).length =
      36 + f.data.length + f.padding.length := by
  simp only [chunk, List.length_append, length_ofNumber, length_format]
  change 4 + (4 + (4 + 16) + (4 + (4 + f.data.length) + f.padding.length)) = _
  omega

end PcmFile

/-! ### The strict reading -/

namespace PcmFile

variable (f : PcmFile)

/-- The file is the canonical header of its description, its data and the padding. -/
theorem bytes_eq :
    f.bytes = f.description.header (ofNumber 4 (36 + f.data.length + f.padding.length))
      f.data.length ++ (f.data ++ f.padding) := by
  rw [bytes, chunk, f.riff_length]
  simp only [PcmFormat.header, chunk, List.append_assoc]
  rfl

/-- The strict reader finds the audio of the file, whatever the number of channels. -/
theorem decodeWave_bytes : decodeWave f.bytes = .ok f.audio := by
  have length_lt : f.data.length < 2 ^ 32 := by
    have := f.length_lt
    omega
  rw [bytes_eq]
  exact f.description.decodeWave_header (length_ofNumber ..) length_lt f.whole_frames f.padding

end PcmFile

/-! ### The reading in packets -/

namespace ContainerReader

theorem reads_take {n : Nat} {front : List UInt8} (h : front.length = n) :
    Reads (take n) front front := ByteReader.reads_take h

/-- Fields are read in the byte order of WAVE files. -/
theorem reads_number {size n : Nat} (h : n < 256 ^ size) :
    Reads (number .little size) (ofNumber size n) n := by
  rw [← List.append_nil (ofNumber size n)]
  refine (reads_take (length_ofNumber size n)).bind ?_
  rw [Bytes.number, littleEndian_ofNumber h]
  exact reads_pure n

/-- Bytes that are skipped are taken all the same. -/
theorem reads_skip {n : Nat} {front : List UInt8} (h : front.length = n) :
    Reads (skip n) front () := by
  rw [← List.append_nil front]
  exact (reads_take h).bind (reads_pure ())

end ContainerReader

open ContainerReader

/-- A chunk that fits is read, if no padding stands in front of it. -/
theorem ChunkList.reads_next {length consumed n : Nat} {name : List UInt8}
    (length_lt : length < 2 ^ 32) (even : consumed % 2 = 0) (length_name : name.length = 4)
    (fits : consumed + 8 + n ≤ length) :
    Reads (next .little ⟨length, consumed⟩) (name ++ ofNumber 4 n)
      (some (⟨name, n⟩, ⟨length, consumed + 8 + n⟩)) := by
  rw [next, if_neg (show consumed % 2 ≠ 1 by omega)]
  change Reads (if length < consumed + 8 then _ else _) _ _
  rw [if_neg (by omega)]
  refine (ContainerReader.reads_take length_name).bind ?_
  rw [← List.append_nil (ofNumber 4 n)]
  refine (reads_number (show n < 2 ^ 32 by omega)).bind ?_
  dsimp only
  rw [if_neg (by omega), Nat.min_eq_right (by rw [unbounded]; omega)]
  exact reads_pure _

namespace PcmFile

variable (f : PcmFile)

/-- The track of the file. -/
def track : Track := ⟨f.channels, f.coding⟩

/-- The container of the file; the data are read up to the end of the file. -/
def container : Container :=
  ⟨some f.track, f.sampleRate, f.align, f.data.length, f.data ++ f.padding⟩

/-- The reader of containers knows the coding of every width there is. -/
theorem integerCoding?_eq : Wave.integerCoding? (8 * f.size) = some f.coding := by
  unfold coding
  rcases f.size_cases with h | h | h | h <;> rw [h] <;> rfl

/-- The format chunk describes the track, if it has no more channels than a container may have. -/
theorem reads_trackFormat (few : f.channels ≤ maxChannels) :
    Reads (Wave.readFormat 16) f.format (f.track, f.sampleRate, f.align) := by
  have := f.size_le
  rw [Wave.readFormat, if_neg (by decide)]
  refine (reads_number (by decide)).bind ?_
  refine (reads_number f.description.channels_lt).bind ?_
  refine (reads_number f.description.sampleRate_lt).bind ?_
  refine (reads_skip (length_ofNumber ..)).bind ?_
  refine (reads_number f.align_lt).bind ?_
  rw [← List.append_nil (ofNumber 2 (8 * f.size))]
  refine (reads_number (by omega)).bind ?_
  rw [if_pos rfl, Wave.integerTrack, if_pos (.inl rfl), f.integerCoding?_eq]
  intro rest
  change (Wave.track f.channels f.coding >>= fun t => pure (t, _, _)) rest = _
  rw [Wave.track, checkChannels, if_pos ⟨f.one_le_channels, few⟩]
  rfl

/-- Behind its marker the file is a container whose data come right after the format. -/
theorem readContainer_eq (few : f.channels ≤ maxChannels) (fuel : Nat) :
    Wave.readContainer (fuel + 2)
      (ofNumber 4 (36 + f.data.length + f.padding.length) ++ (ascii "WAVE" ++
        (chunk "fmt " f.format ++ (chunk "data" f.data ++ f.padding)))) =
      .ok (f.container, f.data ++ f.padding) := by
  refine ((reads_number f.length_lt).bind_eq _ _).trans ?_
  refine ((ContainerReader.reads_take (by rfl)).bind_eq _ _).trans ?_
  rw [if_pos rfl, Wave.readChunks, chunk_append, length_format]
  refine ((ChunkList.reads_next f.length_lt rfl rfl (by omega)).bind_eq _ _).trans ?_
  refine ((f.reads_trackFormat few).bind_eq _ _).trans ?_
  rw [Wave.readChunks, chunk_append]
  exact (ChunkList.reads_next f.length_lt rfl rfl (by omega)).bind_eq _ _

/-- The file starts with the marker of a container. -/
theorem findContainer_bytes (few : f.channels ≤ maxChannels) :
    findContainer f.bytes = .ok f.container := by
  obtain ⟨rest, h⟩ : ∃ rest, rest = ofNumber 4 (36 + f.data.length + f.padding.length) ++
      (ascii "WAVE" ++ (chunk "fmt " f.format ++ (chunk "data" f.data ++ f.padding))) := ⟨_, rfl⟩
  obtain ⟨fuel, length_eq⟩ : ∃ fuel, rest.length = fuel + 2 :=
    ⟨rest.length - 2, by rw [h, List.length_append, length_ofNumber]; omega⟩
  have found : findMarker? (searchLimit - 1) f.bytes = some (.little, rest) := by
    rw [bytes, chunk, f.riff_length, h]
    rfl
  rw [findContainer, found]
  simp only [length_eq]
  rw [h, f.readContainer_eq few]

/-- The reader of containers finds the audio of the file too, packet by packet. -/
theorem decodeContainer_bytes (few : f.channels ≤ maxChannels) :
    decodeContainer f.bytes = .ok f.audio := by
  have frame_eq : f.track.channels * f.track.coding.size = f.align :=
    congrArg (f.channels * ·) f.coding_size
  have frames_le : f.data.length / f.align * f.align ≤ (f.data ++ f.padding).length := by
    rw [List.length_append]
    exact Nat.le_trans (Nat.div_mul_le_self ..) (Nat.le_add_right ..)
  have fuel_le : f.data.length / f.align ≤ (f.data ++ f.padding).length + 1 := by
    rw [List.length_append]
    have := Nat.div_le_self f.data.length f.align
    omega
  have samples_eq : f.container.samples f.track = f.samples := by
    refine (Track.flatMap_packetSamples frame_eq f.align_pos frames_le fuel_le).trans ?_
    change (groups f.coding.size (_ * f.channels) _).map f.coding.decode = f.samples
    rw [f.coding_size, ← f.samples_eq_frames, groups_append (Nat.div_mul_le_self ..), samples]
  have track_eq : f.container.track = some f.track := rfl
  have block_ne : f.container.blockSize ≠ 0 := Nat.ne_of_gt f.align_pos
  have channels_ne : f.track.channels ≠ 0 := Nat.ne_of_gt f.one_le_channels
  rw [decodeContainer, f.findContainer_bytes few]
  simp only [Container.decode_eq, track_eq, block_ne, channels_ne, if_false, samples_eq]
  rfl

end PcmFile

/-! ### Both readings -/

namespace PcmFile

variable (f : PcmFile)

/-- Nothing of the description is lost in the audio. -/
theorem audio_description :
    f.audio.channels.toNat = f.channels ∧ f.audio.sampleRate.toNat = f.sampleRate ∧
      f.audio.frames = f.data.length / f.align := by
  have channels_eq : f.audio.channels.toNat = f.channels :=
    UInt16.toNat_ofNat_of_lt' f.description.channels_lt
  refine ⟨channels_eq, UInt32.toNat_ofNat_of_lt' f.description.sampleRate_lt, ?_⟩
  rw [DecodedAudio.frames, channels_eq]
  change f.samples.length / f.channels = _
  rw [samples, List.length_map, length_groups, f.samples_eq_frames,
    Nat.mul_div_cancel _ f.one_le_channels]

/-- Under a name that ends in `.wav` there may be any number of channels. -/
theorem decodeFile_wave {fs : Files} {path : FilePath} (name : path.isWave = true)
    (opens : fs.open path = .ok (.file f.bytes)) : decodeFile fs path = .ok f.audio := by
  rw [decodeFile, opens]
  simp only [name, if_true, f.decodeWave_bytes]

/-- Under any other name the channels have to be few enough for a container. -/
theorem decodeFile_other (few : f.channels ≤ maxChannels) {fs : Files} {path : FilePath}
    (name : path.isWave = false) (opens : fs.open path = .ok (.file f.bytes)) :
    decodeFile fs path = .ok f.audio := by
  rw [decodeFile, opens]
  simp only [name, Bool.false_eq_true, if_false, f.decodeContainer_bytes few]

/-- Both readers decode a file of integer samples, and they find the same audio: the samples that
its bytes stand for, one by one, with the channels, the sample rate and the frames that the file
says. -/
theorem decodeFile_eq_audio (few : f.channels ≤ maxChannels) {fs : Files} {wave other : FilePath}
    (wave_name : wave.isWave = true) (other_name : other.isWave = false)
    (opens_wave : fs.open wave = .ok (.file f.bytes))
    (opens_other : fs.open other = .ok (.file f.bytes)) :
    decodeFile fs wave = .ok f.audio ∧ decodeFile fs other = .ok f.audio ∧
      f.audio.channels.toNat = f.channels ∧ f.audio.sampleRate.toNat = f.sampleRate ∧
      f.audio.frames = f.data.length / f.align :=
  ⟨f.decodeFile_wave wave_name opens_wave, f.decodeFile_other few other_name opens_other,
    f.audio_description⟩

/-- The same file under the names `a.Wav` and `b`. -/
def copies : Files :=
  ⟨"/", [([[97, 46, 87, 97, 118]], .file f.bytes), ([[98]], .file f.bytes)]⟩

/-- Either name leads to the bytes of the file. -/
theorem copies_open :
    f.copies.open ⟨[97, 46, 87, 97, 118]⟩ = .ok (.file f.bytes) ∧
      f.copies.open ⟨[98]⟩ = .ok (.file f.bytes) := ⟨rfl, rfl⟩

/-! A pulse has more samples than one packet holds. -/

/-- The lowest sample of 24 bits, the one below zero and the highest. -/
def pulseCode : Fin 3 → List UInt8
  | 0 => [0, 0, 128]
  | 1 => [255, 255, 255]
  | 2 => [255, 255, 127]

/-- What becomes of them. -/
def pulseSample : Fin 3 → Int16
  | 0 => -32768
  | 1 => -1
  | 2 => 32767

/-- The three of them, again and again. -/
def pulseLevels : List (Fin 3) := (List.replicate 500 [0, 1, 2]).flatten

theorem length_pulseCode : ∀ level, (pulseCode level).length = 3 := by decide

theorem length_pulseLevels : pulseLevels.length = 1500 := by
  rw [pulseLevels, List.length_flatten, List.map_replicate, List.sum_replicate_nat]
  rfl

theorem length_pulse : (pulseLevels.flatMap pulseCode).length = 4500 := by
  rw [length_flatMap_code length_pulseCode, length_pulseLevels]

/-- One channel of them. -/
def pulse : PcmFile where
  channels := 1
  sampleRate := 44100
  size := 3
  data := pulseLevels.flatMap pulseCode
  padding := []
  one_le_channels := by decide
  one_le_size := Nat.succ_pos 2
  size_le := Nat.le_succ 3
  align_lt := by decide
  byteRate_lt := by decide
  whole_frames := by rw [length_pulse]; decide
  padding_le := Nat.zero_le _
  length_lt := by rw [length_pulse]; decide

/-- Words of 24 bits are cut to their top 16. -/
theorem samples_pulse : pulse.samples = pulseLevels.map pulseSample := by
  have decoded : ∀ level, Coding.decode (.signed 24 .little) (pulseCode level) =
      pulseSample level := by decide
  have data : pulse.data = pulseLevels.flatMap pulseCode := rfl
  have size : pulse.size = 3 := rfl
  have coding : pulse.coding = .signed 24 .little := rfl
  have count : 4500 / 3 = pulseLevels.length := length_pulseLevels.symm
  rw [samples, data, size, coding, length_pulse, count, groups_flatMap_code length_pulseCode,
    List.map_map]
  exact List.map_congr_left fun level _ => decoded level

/-- It takes two packets to get all of it under the second name, and under both names it is the
same. -/
theorem decodeFile_pulse :
    decodeFile pulse.copies ⟨[97, 46, 87, 97, 118]⟩ = .ok pulse.audio ∧
      decodeFile pulse.copies ⟨[98]⟩ = .ok pulse.audio ∧ pulse.audio.frames = 1500 ∧
      pulse.audio.data = pulseLevels.map pulseSample := by
  have few : pulse.channels ≤ maxChannels := by decide
  obtain ⟨strict, packets, -, -, frames⟩ := pulse.decodeFile_eq_audio few
    (by decide) (by decide) pulse.copies_open.1 pulse.copies_open.2
  have data : pulse.data = pulseLevels.flatMap pulseCode := rfl
  refine ⟨strict, packets, ?_, pulse.data_audio.trans samples_pulse⟩
  rw [frames, data, length_pulse]
  rfl

end PcmFile

end SampleBank
