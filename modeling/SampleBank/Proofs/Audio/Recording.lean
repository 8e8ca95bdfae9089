import Mathlib.Algebra.Group.Nat.Defs
import SampleBank.Proofs.Audio.Strict

/-!
# Recordings of integer samples

A `Recording` is a list of signed samples of 8, 16, 24 or 32 bits that are whole frames. Its file is
canonical: samples of one byte are offset by 128, wider ones stand with their lowest byte first.
Every sample is read back as what it was (`PcmFormat.decode_encode`), and then its top 16 bits are
kept, which a shift in words gives without wrapping. In particular samples of 16 bits come back as
they are, also after they were widened by a shift to the left.
-/

namespace SampleBank

open Bytes

/-! ### Codes of samples -/

namespace PcmFormat

variable (f : PcmFormat)

/-- The number of bits of a sample. -/
def bits : Nat := 8 * f.size

/-- The bytes of a sample. -/
def encode (n : Int) : List UInt8 :=
  if f.size = 1 then ofNumber 1 (n + 128).toNat
  else ofNumber f.size (n % Nat.pow 2 f.bits).toNat

theorem bits_pos : 0 < f.bits := Nat.mul_pos (by decide) f.one_le_size

theorem bits_le : f.bits ≤ 32 := Nat.mul_le_mul_left 8 f.size_le

/-- A sample takes the bytes that the description gives it. -/
theorem length_encode (n : Int) : (f.encode n).length = f.size := by
  unfold encode
  split
  · rename_i one
    rw [length_ofNumber, one]
  · rw [length_ofNumber]

/-- A sample is read back from its bytes, and narrowed. -/
theorem decode_encode (fits : FitsSigned f.bits n) :
    f.coding.decode (f.encode n) = Coding.narrow f.bits n := by
  unfold coding encode
  split
  · rename_i one
    rw [bits, one] at fits ⊢
    obtain ⟨low, high⟩ := fits
    change -128 ≤ n at low
    change n < 128 at high
    have byte : (n + 128).toNat < 256 ^ 1 := by omega
    rw [Coding.decode, number, littleEndian_ofNumber byte, Int.toNat_of_nonneg (by omega),
      Int.add_sub_cancel]
  · have rest_nonneg : 0 ≤ n % Nat.pow 2 f.bits :=
      Int.emod_nonneg _ (Int.ne_of_gt (width_pow_pos _))
    have rest_lt : (n % Nat.pow 2 f.bits).toNat < 256 ^ f.size := by
      have pow_eq : Nat.pow 2 f.bits = 256 ^ f.size := Nat.pow_mul 2 8 f.size
      have := Int.emod_lt_of_pos n (width_pow_pos f.bits)
      omega
    have same : signed f.bits (n % Nat.pow 2 f.bits).toNat = n := by
      rw [signed, Int.toNat_of_nonneg rest_nonneg, Int.emod_bmod]
      exact bmod_eq_of_fits f.bits_pos fits
    rw [Coding.decode, number, littleEndian_ofNumber rest_lt]
    exact congrArg (Coding.narrow f.bits) same

end PcmFormat

/-! ### Recordings -/

/-- Samples that fill whole frames, in a description that they fit. -/
structure Recording extends PcmFormat where
  recorded : List Int
  fits : ∀ n ∈ recorded, FitsSigned toPcmFormat.bits n
  whole_frames : channels ∣ recorded.length
  length_lt : recorded.length * size < 2 ^ 32

namespace Recording

/-- A recording of words, which are widened if a sample has more bits than they have. -/
def ofWords (f : PcmFormat) (words : List Int16) (ge : 16 ≤ f.bits)
    (whole_frames : f.channels ∣ words.length) (length_lt : words.length * f.size < 2 ^ 32) :
    Recording where
  toPcmFormat := f
  recorded := words.map (widen f.bits)
  fits := List.forall_mem_map.2 fun word _ => fits_widen ge word
  whole_frames := by rwa [List.length_map]
  length_lt := by rwa [List.length_map]

variable (r : Recording)

/-- The bytes of the samples. -/
def data : List UInt8 := r.recorded.flatMap r.encode

/-- A file of the recording, with any length `riff` of the whole and anything behind the data. -/
def bytes (riff rest : List UInt8) : List UInt8 :=
  r.header riff r.data.length ++ (r.data ++ rest)

/-- Its audio. -/
def audio : DecodedAudio :=
  ⟨UInt16.ofNat r.channels, UInt32.ofNat r.sampleRate, r.recorded.map (Coding.narrow r.bits)⟩

/-- The data are as long as all samples together. -/
theorem length_data : r.data.length = r.recorded.length * r.size :=
  length_flatMap_code r.length_encode

/-- The data are cut into the samples that were recorded. -/
theorem samples_data : r.samples r.data = r.recorded.map (Coding.narrow r.bits) := by
  rw [PcmFormat.samples, r.length_data, Nat.mul_div_cancel _ r.one_le_size, data,
    groups_flatMap_code r.length_encode, List.map_map]
  exact List.map_congr_left fun n listed => r.decode_encode (r.fits n listed)

/-- A recording is decoded to its audio. -/
theorem decodeFile_eq {riff : List UInt8} (four : riff.length = 4) {rest : List UInt8} {fs : Files}
    {path : FilePath} (name : path.isWave = true)
    (opens : fs.open path = .ok (.file (r.bytes riff rest))) :
    decodeFile fs path = .ok r.audio := by
  have length_lt : r.data.length < 2 ^ 32 := r.length_data ▸ r.length_lt
  have whole : r.align ∣ r.data.length := by
    rw [r.length_data]
    exact Nat.mul_dvd_mul_right r.whole_frames r.size
  rw [decodeFile, opens]
  simp only [name, if_true, bytes, r.decodeWave_header four length_lt whole rest, r.samples_data]
  rfl

/-- A recording is read with its description, and each sample as its top 16 bits, which is what
shifting words gives. Words that were recorded are read back, at their own width or widened. -/
theorem decodeFile_data_eq_topBits {riff : List UInt8} (four : riff.length = 4)
    {rest : List UInt8} {fs : Files} {path : FilePath} (name : path.isWave = true)
    (opens : fs.open path = .ok (.file (r.bytes riff rest))) :
    ∃ audio, decodeFile fs path = .ok audio ∧ audio.channels.toNat = r.channels ∧
      audio.sampleRate.toNat = r.sampleRate ∧
      audio.data.map Int16.toInt = r.recorded.map (topBits r.bits) ∧
      audio.data = r.recorded.map (Coding.shift r.bits) ∧
      ∀ words, 16 ≤ r.bits → r.recorded = words.map (widen r.bits) → audio.data = words := by
  refine ⟨r.audio, r.decodeFile_eq four name opens, ?_, ?_, ?_, ?_, ?_⟩
  · exact UInt16.toNat_ofNat_of_lt' r.channels_lt
  · exact UInt32.toNat_ofNat_of_lt' r.sampleRate_lt
  · rw [audio, List.map_map]
    exact List.map_congr_left fun n listed => Coding.toInt_narrow r.bits_pos (r.fits n listed)
  · exact List.map_congr_left fun n listed =>
      Coding.narrow_eq_shift r.bits_pos r.bits_le (r.fits n listed)
  · intro words ge widened
    change r.recorded.map (Coding.narrow r.bits) = words
    rw [widened, List.map_map]
    exact (List.map_congr_left fun word _ => Coding.narrow_widen ge word).trans (List.map_id words)

/-- Two frames of two channels, widened to 24 bits. -/
def tone : Recording :=
  ofWords ⟨2, 48000, 3, by decide, by decide, by decide, by decide, by decide⟩
    [1, -1, 32767, -32768] (by decide) (by decide) (by decide)

/-- Its file under the name `a.wav`. -/
def toneFiles : Files := ⟨"/", [([[97, 46, 119, 97, 118]], .file (tone.bytes [48, 0, 0, 0] []))]⟩

/-- Words that were widened to 24 bits come back. -/
theorem decodeFile_tone :
    ∃ audio, decodeFile toneFiles ⟨[97, 46, 119, 97, 118]⟩ = .ok audio ∧
      audio.data.map Int16.toInt = [256, -256, 8388352, -8388608].map (topBits 24) ∧
      audio.data = [1, -1, 32767, -32768] := by
  have opens : toneFiles.open ⟨[97, 46, 119, 97, 118]⟩ =
      .ok (.file (tone.bytes [48, 0, 0, 0] [])) := rfl
  obtain ⟨audio, decoded, -, -, top, -, kept⟩ :=
    tone.decodeFile_data_eq_topBits (by decide) (by decide) opens
  exact ⟨audio, decoded, top, kept _ (by decide) rfl⟩

end Recording

end SampleBank
