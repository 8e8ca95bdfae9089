import SampleBank.Audio.Decode
import SampleBank.Proofs.Audio.Narrowing

/-!
# Canonical files, read strictly

A canonical WAVE file of integer samples has one format chunk of 16 bytes, and its data right behind
that. A `PcmFormat` is what such a chunk can say: all of it fits its fields. The strict reader takes
the header field by field (`PcmFormat.reads_header`) and then all samples in one go
(`PcmFormat.readSamples_ok`). It shifts the number that the bytes of a sample spell, and that is the
sample that they stand for (`PcmFormat.shift_integerSample`); so it finds the samples that the data
are cut into, each one decoded by itself (`PcmFormat.decodeWave_header`). It never looks at the
length that the file claims to have as a whole, nor at what stands behind the data.
-/

namespace SampleBank

open Bytes ByteReader

/-- A chunk: its name, its length and its content. -/
def Bytes.chunk (name : String) (content : List UInt8) : List UInt8 :=
  ascii name ++ (ofNumber 4 content.length ++ content)

/-- A chunk is its header and its content, and what stands behind it can be joined to the
content. -/
theorem Bytes.chunk_append (name : String) (content rest : List UInt8) :
    chunk name content ++ rest =
      (ascii name ++ ofNumber 4 content.length) ++ (content ++ rest) := by
  simp only [chunk, List.append_assoc]

/-- A description of integer samples for which a format chunk of 16 bytes has room. -/
structure PcmFormat where
  channels : Nat
  sampleRate : Nat
  /-- The number of bytes of a sample. -/
  size : Nat
  one_le_channels : 1 ≤ channels
  one_le_size : 1 ≤ size
  size_le : size ≤ 4
  align_lt : channels * size < 2 ^ 16
  byteRate_lt : channels * size * sampleRate < 2 ^ 32

namespace PcmFormat

variable (f : PcmFormat)

/-- The size of a frame. -/
def align : Nat := f.channels * f.size

/-- The content of the format chunk. -/
def content : List UInt8 :=
  ofNumber 2 1 ++ (ofNumber 2 f.channels ++ (ofNumber 4 f.sampleRate ++
    (ofNumber 4 (f.align * f.sampleRate) ++ (ofNumber 2 f.align ++ ofNumber 2 (8 * f.size)))))

/-- What stands in front of data of a given length. The first chunk is that of the whole file, with
`riff` in place of its length. -/
def header (riff : List UInt8) (length : Nat) : List UInt8 :=
  ascii "RIFF" ++ (riff ++ (ascii "WAVE" ++
    (chunk "fmt " f.content ++ (ascii "data" ++ ofNumber 4 length))))

/-- How samples are stored. -/
def coding : Coding := if f.size = 1 then .offset8 else .signed (8 * f.size) .little

/-- The samples that data hold. -/
def samples (data : List UInt8) : List Int16 :=
  (groups f.size (data.length / f.size) data).map f.coding.decode

@[simp] theorem length_content : f.content.length = 16 := by
  simp only [content, List.length_append, length_ofNumber]

theorem align_pos : 0 < f.align := Nat.mul_pos f.one_le_channels f.one_le_size

/-- The channels fit their field, because a frame does. -/
theorem channels_lt : f.channels < 2 ^ 16 :=
  Nat.lt_of_le_of_lt (Nat.le_mul_of_pos_right _ f.one_le_size) f.align_lt

/-- The sample rate fits its field, because the bytes of a second do. -/
theorem sampleRate_lt : f.sampleRate < 2 ^ 32 :=
  Nat.lt_of_le_of_lt (Nat.le_mul_of_pos_left _ f.align_pos) f.byteRate_lt

/-- The room of a sample is what the size of a frame gives each channel. -/
theorem align_div_channels : f.align / f.channels = f.size :=
  Nat.mul_div_cancel_left _ f.one_le_channels

/-- The coding takes as many bytes as the description gives to a sample. -/
theorem coding_size : f.coding.size = f.size := by
  unfold coding
  split
  · rename_i one
    exact one.symm
  · exact Nat.mul_div_cancel_left _ (by decide)

/-- A sample of any width is one of four kinds. -/
theorem size_cases : f.size = 1 ∨ f.size = 2 ∨ f.size = 3 ∨ f.size = 4 := by
  have := f.one_le_size
  have := f.size_le
  omega

/-- Data that are whole frames are whole samples, and these make as many frames. -/
theorem samples_eq_frames {length : Nat} (whole : f.align ∣ length) :
    f.size ∣ length ∧ length / f.size = length / f.align * f.channels := by
  obtain ⟨frames, rfl⟩ := whole
  have align_eq : f.align = f.channels * f.size := rfl
  constructor
  · rw [align_eq, Nat.mul_assoc]
    exact Nat.dvd_mul_left_of_dvd (Nat.dvd_mul_right ..) _
  · rw [Nat.mul_div_cancel_left _ f.align_pos, align_eq, Nat.mul_right_comm,
      Nat.mul_div_cancel _ f.one_le_size, Nat.mul_comm]

end PcmFormat

/-! ### The header -/

namespace WaveFile

theorem reads_take {n : Nat} {front : List UInt8} (h : front.length = n) :
    Reads (take n) front front := ByteReader.reads_take h

theorem reads_number {size n : Nat} (h : n < 256 ^ size) :
    Reads (number size) (ofNumber size n) n := by
  rw [← List.append_nil (ofNumber size n)]
  refine (reads_take (length_ofNumber size n)).bind ?_
  rw [littleEndian_ofNumber h]
  exact reads_pure n

end WaveFile

namespace PcmFormat

variable (f : PcmFormat)

/-- The format as the strict reader sees it. -/
def waveFormat : WaveFile.Format := ⟨f.channels, f.sampleRate, f.size, 8 * f.size, false⟩

/-- The description passes every check that all formats have to pass. -/
theorem checkFormat_ok :
    WaveFile.checkFormat f.channels f.sampleRate (f.align * f.sampleRate) f.align (8 * f.size) =
      .ok () := by
  have := f.one_le_channels
  have := f.one_le_size
  have := f.size_le
  rw [WaveFile.checkFormat, f.align_div_channels, if_neg (by omega), if_neg (by omega),
    if_neg (Decidable.not_not.2 rfl), if_neg (by omega), if_neg (by omega)]

/-- The format chunk is read as the format that was written. -/
theorem reads_waveFormat : Reads (WaveFile.readFormat 16) f.content f.waveFormat := by
  have := f.size_le
  rw [WaveFile.readFormat, if_neg (by decide)]
  refine (WaveFile.reads_number (by decide)).bind ?_
  refine (WaveFile.reads_number f.channels_lt).bind ?_
  refine (WaveFile.reads_number f.sampleRate_lt).bind ?_
  refine (WaveFile.reads_number f.byteRate_lt).bind ?_
  refine (WaveFile.reads_number f.align_lt).bind ?_
  rw [← List.append_nil (ofNumber 2 (8 * f.size))]
  refine (WaveFile.reads_number (by omega)).bind ?_
  rw [f.checkFormat_ok, f.align_div_channels]
  exact reads_pure _

/-- What stands in front of the data, from the format chunk on. -/
theorem reads_untilData (fuel : Nat) (format : Option WaveFile.Format) {length : Nat}
    (length_lt : length < 2 ^ 32) :
    Reads (WaveFile.readUntilData (fuel + 2) format)
      (chunk "fmt " f.content ++ (ascii "data" ++ ofNumber 4 length)) (f.waveFormat, length) := by
  rw [chunk, List.append_assoc, List.append_assoc, WaveFile.readUntilData]
  refine (WaveFile.reads_take (by rfl)).bind ?_
  refine (WaveFile.reads_number (by rw [length_content]; decide)).bind ?_
  rw [if_pos rfl, length_content]
  refine f.reads_waveFormat.bind ?_
  rw [WaveFile.readUntilData]
  refine (WaveFile.reads_take (by rfl)).bind ?_
  rw [← List.append_nil (ofNumber 4 _)]
  refine (WaveFile.reads_number length_lt).bind ?_
  rw [if_neg (by decide), if_neg (by decide), if_pos rfl]
  exact reads_pure _

/-- There are 44 bytes in front of the data. -/
theorem length_header {riff : List UInt8} (four : riff.length = 4) (length : Nat) :
    (f.header riff length).length = 44 := by
  simp only [header, chunk, List.length_append, length_ofNumber, length_content, four]
  rfl

/-- The header is read up to the data, whatever length it gives for the whole file. -/
theorem reads_header (fuel : Nat) {riff : List UInt8} (four : riff.length = 4) {length : Nat}
    (length_lt : length < 2 ^ 32) :
    Reads (WaveFile.readHeader (fuel + 2)) (f.header riff length) (f.waveFormat, length) := by
  rw [WaveFile.readHeader, header]
  refine (WaveFile.reads_take (by rfl)).bind ?_
  rw [if_neg (Decidable.not_not.2 rfl)]
  refine (WaveFile.reads_take four).bind ?_
  refine (WaveFile.reads_take (by rfl)).bind ?_
  rw [if_neg (Decidable.not_not.2 rfl)]
  exact f.reads_untilData fuel none length_lt

/-! ### The samples -/

/-- Every width of the description is one that the strict reader knows. -/
theorem integerWidth_ok : WaveFile.integerWidth f.waveFormat = .ok (8 * f.size) := by
  unfold waveFormat
  rcases f.size_cases with h | h | h | h <;> rw [h] <;> rfl

/-- Shifted in a word, the number that bytes spell is the sample that they stand for. -/
theorem shift_integerSample {group : List UInt8} (short : group.length ≤ f.size) :
    Coding.shift (8 * f.size) (WaveFile.integerSample (8 * f.size) group) =
      f.coding.decode group := by
  have pos : 0 < 8 * f.size := Nat.mul_pos (by decide) f.one_le_size
  have le : 8 * f.size ≤ 32 := Nat.mul_le_mul_left 8 f.size_le
  rw [← Coding.narrow_eq_shift pos le
    (WaveFile.fits_integerSample pos (Nat.mul_le_mul_left 8 short))]
  unfold coding WaveFile.integerSample
  by_cases one : f.size = 1
  · rw [if_pos one, one]
    rfl
  · rw [if_neg one, if_neg (by omega), Nat.mul_div_cancel_left _ (by decide),
      List.take_of_length_le short]
    rfl

/-- The strict reader takes all samples at once. -/
theorem readSamples_ok (data rest : List UInt8) :
    WaveFile.readSamples f.waveFormat (data.length / f.size) (data ++ rest) =
      .ok (f.samples data) := by
  have narrow : ¬ (f.waveFormat.float = false ∧ 32 < f.waveFormat.bits) := by
    have := f.size_le
    rintro ⟨-, wide⟩
    change 32 < 8 * f.size at wide
    omega
  have enough : data.length / f.size * f.size ≤ data.length := Nat.div_mul_le_self ..
  have same : ∀ group ∈ groups f.size (data.length / f.size) data,
      Coding.shift (8 * f.size) (WaveFile.integerSample (8 * f.size) group) =
        f.coding.decode group :=
    fun _ listed => f.shift_integerSample (length_le_of_mem_groups listed)
  rw [WaveFile.readSamples, if_neg narrow, samples]
  split
  · rename_i none
    rw [none]
    rfl
  · rw [WaveFile.sampleDecoder, if_neg (show f.waveFormat.float ≠ true from Bool.false_ne_true),
      f.integerWidth_ok]
    change (if data.length / f.size * f.size ≤ (data ++ rest).length then
      Except.ok ((groups f.size _ (data ++ rest)).map _) else _) = _
    rw [if_pos (by rw [List.length_append]; omega), groups_append enough, List.map_congr_left same]

/-- A canonical file holds the samples of its data, whatever stands behind them. -/
theorem decodeWave_header {riff data : List UInt8} (four : riff.length = 4)
    (length_lt : data.length < 2 ^ 32) (whole : f.align ∣ data.length) (rest : List UInt8) :
    decodeWave (f.header riff data.length ++ (data ++ rest)) =
      .ok ⟨UInt16.ofNat f.channels, UInt32.ofNat f.sampleRate, f.samples data⟩ := by
  obtain ⟨fuel, h⟩ : ∃ fuel, (f.header riff data.length ++ (data ++ rest)).length = fuel + 2 :=
    ⟨42 + (data ++ rest).length, by rw [List.length_append, f.length_header four]; omega⟩
  have read := f.reads_header fuel four length_lt (data ++ rest)
  rw [← h] at read
  obtain ⟨size_dvd, frames⟩ := f.samples_eq_frames whole
  have whole_samples : data.length % f.waveFormat.bytes = 0 := Nat.mod_eq_zero_of_dvd size_dvd
  have whole_frames : data.length / f.waveFormat.bytes % f.waveFormat.channels = 0 :=
    frames ▸ Nat.mul_mod_left ..
  have samples : WaveFile.readSamples f.waveFormat (data.length / f.waveFormat.bytes)
      (data ++ rest) = .ok (f.samples data) := f.readSamples_ok data rest
  rw [decodeWave, WaveFile.decode, read]
  simp only [whole_samples, whole_frames, samples, ne_eq, not_true_eq_false, if_false]
  rfl

end PcmFormat

end SampleBank
