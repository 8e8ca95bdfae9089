import SampleBank.Proofs.Audio.Packets

/-!
# Whole frames

Whatever the bytes of a file are, decoded audio has a channel and is whole frames
(`decodeFile_wholeFrames`), so that `DecodedAudio.frames` leaves no sample out.

The two readers come to that in different ways. The strict one refuses a format without channels
(`WaveFile.yields_readFormat`) and data that are not whole frames, and then it reads every sample or
fails (`WaveFile.length_of_readSamples`). The reader of containers takes the data as they come, but
each packet gives whole frames only (`Track.dvd_length_packetSamples`), and a track without channels
is refused in the end. In both the number of channels has room in its 16 bits: it comes from a field
of that size, or it is that of a track, which is small.
-/

namespace SampleBank

open ByteReader

/-- Audio that is whole frames of at least one channel. -/
def DecodedAudio.WholeFrames (a : DecodedAudio) : Prop :=
  1 ≤ a.channels.toNat ∧ a.data.length = a.frames * a.channels.toNat

/-- Samples whose number is a multiple of the channels are whole frames, if the channels fit their
16 bits. -/
theorem DecodedAudio.wholeFrames_of_dvd {channels : Nat} {data : List Int16}
    (some_channel : channels ≠ 0) (few : channels < 2 ^ 16) (whole : channels ∣ data.length)
    (rate : UInt32) :
    (DecodedAudio.mk (UInt16.ofNat channels) rate data).WholeFrames := by
  have same : (UInt16.ofNat channels).toNat = channels := UInt16.toNat_ofNat_of_lt' few
  constructor
  · rw [same]
    exact Nat.one_le_iff_ne_zero.2 some_channel
  · rw [frames, same, Nat.div_mul_cancel whole]

/-! ### The strict reader -/

namespace WaveFile

/-- A number of `n` bytes is less than `256 ^ n`. -/
theorem yields_number (n : Nat) : Yields (number n) fun value => value < 256 ^ n :=
  yields_take.bind fun bytes length => yields_pure (length ▸ Bytes.littleEndian_lt bytes)

variable {f : Format} {length : Nat}

/-- Reading the rest of a format of integer samples does not change its channels. -/
theorem yields_integerFormat : Yields (integerFormat length f) (·.channels = f.channels) := by
  refine .ite (fun _ => yields_pure rfl) fun _ => ?_
  refine .ite (fun _ => .behind fun _ => ?_) fun _ => yields_fail
  exact .ite (fun _ => .behind fun _ => yields_pure rfl) fun _ => yields_fail

/-- Nor does it change those of a format of floating-point samples. -/
theorem yields_floatFormat : Yields (floatFormat length f) (·.channels = f.channels) := by
  have single : Yields (if f.bits ≠ 32 then illFormed .bitsNot32
      else return { f with float := true }) (·.channels = f.channels) :=
    .ite (fun _ => yields_fail) fun _ => yields_pure rfl
  refine .ite (fun _ => ?_) fun _ => yields_fail
  refine .ite (fun _ => .behind fun _ => ?_) fun _ => .behind fun _ => ?_
  · exact .ite (fun _ => yields_fail) fun _ => single
  · exact .ite (fun _ => yields_fail) fun _ => single

/-- An identified kind of samples may have another width, but it has the same channels. -/
theorem yields_extensibleFormat : Yields (extensibleFormat length f) (·.channels = f.channels) := by
  refine .ite (fun _ => yields_fail) fun _ => .behind fun _ => ?_
  refine .ite (fun _ => yields_fail) fun _ => ?_
  refine .behind fun bits => .behind fun _ => .behind fun _ => ?_
  have same : (if bits = 0 then f else { f with bits := bits }).channels = f.channels := by
    split <;> rfl
  refine .ite (fun _ => yields_pure same) fun _ => ?_
  exact .ite (fun _ => yields_pure same) fun _ => yields_fail

/-- A format has a channel, and no more than its field can say. -/
def Format.Channelled (f : Format) : Prop := f.channels ≠ 0 ∧ f.channels < 2 ^ 16

/-- A format chunk without channels is refused, and their number comes from a field of two bytes. -/
theorem yields_readFormat : Yields (readFormat length) Format.Channelled := by
  refine .ite (fun _ => yields_fail) fun _ => .behind fun _ => ?_
  refine (yields_number 2).bind fun channels few => ?_
  refine .behind fun rate => .behind fun byteRate => .behind fun align => .behind fun bits => ?_
  cases checked : checkFormat channels rate byteRate align bits with
  | error fault => exact yields_fail
  | ok _ =>
    have some_channel : channels ≠ 0 := by
      rintro rfl
      cases checked
    have channelled (g : Format) (same : g.channels = channels) : g.Channelled := by
      rw [Format.Channelled, same]
      exact ⟨some_channel, few⟩
    refine .ite (fun _ => yields_integerFormat.mono channelled) fun _ => ?_
    refine .ite (fun _ => yields_floatFormat.mono channelled) fun _ => ?_
    exact .ite (fun _ => yields_extensibleFormat.mono channelled) fun _ => yields_fail

/-- Whichever format chunk is the last one in front of the data, its format has a channel. -/
theorem yields_readUntilData {fuel : Nat} {format : Option Format}
    (known : ∀ f, format = some f → f.Channelled) :
    Yields (readUntilData fuel format) fun found => found.1.Channelled := by
  induction fuel generalizing format with
  | zero => exact yields_fail
  | succ fuel ih =>
    refine .behind fun _ => .behind fun _ => ?_
    -- a format, a fact, the data and any other chunk
    refine .ite (fun _ => ?_) fun _ => .ite (fun _ => ?_) fun _ => .ite (fun _ => ?_) fun _ => ?_
    · exact yields_readFormat.bind fun f channelled => ih fun _ same =>
        Option.some.inj same ▸ channelled
    · exact .behind fun _ => ih known
    · cases format with
      | none => exact yields_fail
      | some f => exact yields_pure (known f rfl)
    · exact .behind fun _ => ih known

/-- The header of a WAVE file describes samples of at least one channel. -/
theorem yields_readHeader {fuel : Nat} :
    Yields (readHeader fuel) fun found => found.1.Channelled := by
  refine .behind fun _ => .ite (fun _ => yields_fail) fun _ => ?_
  refine .behind fun _ => .behind fun _ => .ite (fun _ => yields_fail) fun _ => ?_
  exact yields_readUntilData nofun

/-- Reading either fails or gives every sample. -/
theorem length_of_readSamples {count : Nat} {bytes : List UInt8} {data : List Int16}
    (read : readSamples f count bytes = .ok data) : data.length = count := by
  rw [readSamples] at read
  split at read
  · cases read
  · split at read
    · rename_i none
      obtain rfl := Except.ok.inj read
      exact none.symm
    · split at read
      · cases read
      · split at read
        · obtain rfl := Except.ok.inj read
          rw [List.length_map, Bytes.length_groups]
        · cases read

/-- The strict reader refuses data that are not whole frames, so that all it decodes is. -/
theorem wholeFrames_of_decode {bytes : List UInt8} {audio : DecodedAudio}
    (decoded : decode bytes = .ok audio) : audio.WholeFrames := by
  rw [decode] at decoded
  split at decoded
  · cases decoded
  · rename_i f length rest header
    obtain ⟨some_channel, few⟩ := yields_readHeader bytes (f, length) rest header
    split at decoded
    · cases decoded
    · split at decoded
      · cases decoded
      · rename_i whole
        split at decoded
        · cases decoded
        · rename_i data read
          obtain rfl := Except.ok.inj decoded
          refine DecodedAudio.wholeFrames_of_dvd some_channel few ?_ _
          rw [length_of_readSamples read]
          exact Nat.dvd_of_mod_eq_zero (Decidable.not_not.1 whole)

end WaveFile

/-! ### Tracks -/

open ContainerReader

/-- A track has no more channels than a mask has positions. -/
def Track.Narrow (t : Track) : Prop := t.channels ≤ 32

/-- The check of the channels passes no more than there are positions for. -/
theorem yields_checkChannels {channels : Nat} :
    Yields (checkChannels channels) fun _ => channels ≤ maxChannels :=
  .ite (fun few => yields_pure few.2) fun _ => yields_fail

/-- A track whose channels are checked is narrow. -/
theorem yields_checked {channels : Nat} (coding : Coding) :
    Yields (do checkChannels channels; return ⟨channels, coding⟩) Track.Narrow :=
  yields_checkChannels.bind fun _ few => yields_pure (Nat.le_trans few (by decide))

/-- A track with its sample rate and the size of a block. -/
theorem yields_described {reader : ContainerReader Track} (narrow : Yields reader Track.Narrow)
    (sampleRate blockSize : Nat) :
    Yields (do return (← reader, sampleRate, blockSize)) fun described => described.1.Narrow :=
  narrow.bind fun _ narrow => yields_pure narrow

namespace Wave

variable {length channels bits : Nat}

/-- Integer samples of any width make a narrow track. -/
theorem yields_integerTrack : Yields (integerTrack length channels bits) Track.Narrow := by
  refine .ite (fun _ => .behind fun _ => ?_) fun _ => yields_fail
  cases integerCoding? bits with
  | none => exact yields_fail
  | some coding => exact yields_checked coding

/-- Floating-point samples of either precision make a narrow track. -/
theorem yields_floatTrack : Yields (floatTrack length channels bits) Track.Narrow := by
  refine .ite (fun _ => ?_) fun _ => yields_fail
  -- what is checked of the extension is the same for both lengths
  refine .ite (fun _ => .behind fun _ => ?_) fun _ => .behind fun _ => ?_
  all_goals
    refine .ite (fun _ => yields_fail) fun _ => ?_
    cases floatCoding? bits with
    | none => exact yields_fail
    | some coding => exact yields_checked coding

/-- Companded samples of both laws make a narrow track. -/
theorem yields_compandedTrack (coding : Coding) (fault : ContainerFault) :
    Yields (compandedTrack coding fault length channels) Track.Narrow := by
  refine .ite (fun _ => .behind fun _ => .behind fun _ => ?_) fun _ => yields_fail
  exact yields_checked coding

/-- A mask of 32 positions names 32 channels at most. -/
theorem maskCount_le (mask : Nat) : maskCount mask ≤ 32 := List.length_filter_le ..

/-- Here the channels are not checked, but they are as many as the mask names. -/
theorem yields_extensibleTrack : Yields (extensibleTrack length channels bits) Track.Narrow := by
  refine .ite (fun _ => yields_fail) fun _ => .behind fun _ => ?_
  refine .ite (fun _ => yields_fail) fun _ => .behind fun _ => ?_
  refine .ite (fun _ => yields_fail) fun _ => .ite (fun _ => yields_fail) fun _ => ?_
  refine .behind fun mask => .ite (fun _ => yields_fail) fun counted => ?_
  refine .ite (fun _ => yields_fail) fun _ => .behind fun _ => .behind fun _ => yields_pure ?_
  rw [Track.Narrow, ← Decidable.not_not.1 counted]
  exact maskCount_le mask

/-- Whatever kind of samples a format chunk announces, its track is narrow. -/
theorem yields_readFormat : Yields (readFormat length) fun described => described.1.Narrow := by
  refine .ite (fun _ => yields_fail) fun _ => ?_
  refine .behind fun kind => .behind fun channels => .behind fun rate => .behind fun _ => ?_
  refine .behind fun blockSize => .behind fun bits => ?_
  refine .ite (fun _ => yields_described yields_integerTrack _ _) fun _ => ?_
  refine .ite (fun _ => yields_described yields_floatTrack _ _) fun _ => ?_
  refine .ite (fun _ => yields_described (yields_compandedTrack _ _) _ _) fun _ => ?_
  refine .ite (fun _ => yields_described (yields_compandedTrack _ _) _ _) fun _ => ?_
  refine .ite (fun _ => yields_described yields_extensibleTrack _ _) fun _ => ?_
  refine .ite (fun _ => ?_) fun _ => ?_
  · exact yields_described (yields_fail) _ _
  · exact yields_described (yields_fail) _ _

end Wave

namespace Aiff

variable {channels bits : Nat}

theorem yields_integerTrack : Yields (integerTrack channels bits) Track.Narrow :=
  .ite (fun _ => yields_checked _) fun _ => yields_fail

/-- Words in either byte order make a narrow track. -/
theorem yields_wordTrack (order : ByteOrder) (fault : ContainerFault) :
    Yields (wordTrack order fault channels bits) Track.Narrow :=
  .ite (fun _ => yields_checked _) fun _ => yields_fail

theorem yields_floatTrack : Yields (floatTrack channels bits) Track.Narrow :=
  .ite (fun _ => yields_checked _) fun _ =>
    .ite (fun _ => yields_checked _) fun _ => yields_fail

/-- Every compression type that is known at all has a narrow track. -/
theorem yields_compressedTrack (type : List UInt8) :
    Yields (compressedTrack type channels bits) Track.Narrow := by
  refine .ite (fun _ => yields_integerTrack) fun _ => ?_
  refine .ite (fun _ => yields_checked _) fun _ => .ite (fun _ => yields_checked _) fun _ => ?_
  refine .ite (fun _ => yields_floatTrack) fun _ => ?_
  refine .ite (fun _ => yields_wordTrack _ _) fun _ => ?_
  exact .ite (fun _ => yields_wordTrack _ _) fun _ => yields_fail

/-- The common chunk of an AIFF or AIFF-C file describes a narrow track. -/
theorem yields_readCommon (form : List UInt8) :
    Yields (readCommon form) fun described => described.1.Narrow := by
  refine .ite (fun _ => ?_) fun _ => yields_fail
  refine .behind fun channels => .behind fun _ => .behind fun bits => .behind fun rate => ?_
  refine .ite (fun _ => .behind fun type => .behind fun _ => ?_) fun _ => ?_
  · exact yields_described (yields_compressedTrack type) _ _
  · exact yields_described yields_integerTrack _ _

end Aiff

/-! ### Containers -/

/-- The track of a container, if it has one, is narrow. -/
def Container.Narrow (c : Container) : Prop := ∀ t, c.track = some t → t.Narrow

/-- What was read of a description, if anything, is narrow. -/
def DescriptionNarrow (description : Option (Track × Nat × Nat)) : Prop :=
  ∀ described, description = some described → described.1.Narrow

variable {description : Option (Track × Nat × Nat)} {fuel : Nat} {list : ChunkList}

/-- A container takes its track from the description that was read before its data. -/
theorem narrow_of_description (known : DescriptionNarrow description) {rate blockSize length : Nat}
    {bytes : List UInt8} :
    (Container.mk (description.map (·.1)) rate blockSize length bytes).Narrow := by
  intro t described
  obtain ⟨d, same, rfl⟩ := Option.map_eq_some_iff.1 described
  exact known d same

theorem descriptionNarrow_some {described : Track × Nat × Nat} (narrow : described.1.Narrow) :
    DescriptionNarrow (some described) := by
  rintro _ ⟨⟩
  exact narrow

/-- Whichever chunks stand before the data of a WAVE container, its track is narrow. -/
theorem Wave.yields_readChunks (known : DescriptionNarrow description) :
    Yields (readChunks fuel list description) Container.Narrow := by
  induction fuel generalizing list description with
  | zero => exact yields_fail
  | succ fuel ih =>
    refine .behind fun found => ?_
    cases found with
    | none => exact yields_fail
    | some found =>
      -- a format, a fact, a list, the data and any other chunk
      refine .ite (fun _ => ?_) fun _ => .ite (fun _ => ?_) fun _ => .ite (fun _ => ?_) fun _ =>
        .ite (fun _ => ?_) fun _ => ?_
      · exact yields_readFormat.bind fun _ narrow => ih (descriptionNarrow_some narrow)
      · exact .ite (fun _ => .behind fun _ => ih known) fun _ => yields_fail
      · exact .behind fun _ => ih known
      · exact .behind fun _ => yields_pure (narrow_of_description known)
      · exact .behind fun _ => ih known

/-- Whichever chunks stand before the sound of an AIFF container, its track is narrow. -/
theorem Aiff.yields_readChunks {form : List UInt8} (known : DescriptionNarrow description) :
    Yields (readChunks form fuel list description) Container.Narrow := by
  induction fuel generalizing list description with
  | zero => exact yields_fail
  | succ fuel ih =>
    refine .behind fun found => ?_
    cases found with
    | none => exact yields_fail
    | some found =>
      -- a common chunk, the sound and any other chunk
      refine .ite (fun _ => ?_) fun _ => .ite (fun _ => ?_) fun _ => ?_
      · exact (yields_readCommon form).bind fun _ narrow => ih (descriptionNarrow_some narrow)
      · refine .behind fun _ => .behind fun _ => .ite (fun _ => yields_fail) fun _ => ?_
        exact .behind fun _ => yields_pure (narrow_of_description known)
      · exact .behind fun _ => ih known

theorem Wave.yields_readContainer : Yields (readContainer fuel) Container.Narrow :=
  .behind fun _ => .behind fun _ => .ite (fun _ => yields_readChunks nofun) fun _ => yields_fail

theorem Aiff.yields_readContainer : Yields (readContainer fuel) Container.Narrow :=
  .behind fun _ => .behind fun _ => yields_readChunks nofun

/-- Wherever in a file a container begins, its track is narrow. -/
theorem narrow_of_findContainer {bytes : List UInt8} {c : Container}
    (found : findContainer bytes = .ok c) : c.Narrow := by
  rw [findContainer] at found
  split at found
  · cases found
  · rename_i order rest _
    dsimp only at found
    split at found
    · cases found
    · rename_i left read
      obtain rfl := Except.ok.inj found
      cases order with
      | little => exact Wave.yields_readContainer rest _ left read
      | big => exact Aiff.yields_readContainer rest _ left read

/-! ### Audio -/

/-- Decoding drops what is left of a frame at the end of a packet, and never gives audio without a
channel. -/
theorem Container.Narrow.wholeFrames {c : Container} (narrow : c.Narrow) {audio : DecodedAudio}
    (decoded : c.decode = .ok audio) : audio.WholeFrames := by
  rw [decode_eq] at decoded
  split at decoded
  · cases decoded
  · rename_i t track
    split at decoded
    · cases decoded
    · split at decoded
      · cases decoded
      · rename_i some_channel
        obtain rfl := Except.ok.inj decoded
        have few : t.channels < 2 ^ 16 := Nat.lt_of_le_of_lt (narrow t track) (by decide)
        exact DecodedAudio.wholeFrames_of_dvd some_channel few (c.dvd_length_samples t) _

/-! ### Files -/

/-- Files that call themselves WAVE are decoded to whole frames. -/
theorem wholeFrames_of_decodeWave {bytes : List UInt8} {audio : DecodedAudio}
    (decoded : decodeWave bytes = .ok audio) : audio.WholeFrames := by
  rw [decodeWave] at decoded
  split at decoded
  · rename_i read
    obtain rfl := Except.ok.inj decoded
    exact WaveFile.wholeFrames_of_decode read
  · cases decoded

/-- All other files are decoded to whole frames too. -/
theorem wholeFrames_of_decodeContainer {bytes : List UInt8} {audio : DecodedAudio}
    (decoded : decodeContainer bytes = .ok audio) : audio.WholeFrames := by
  rw [decodeContainer] at decoded
  split at decoded
  · cases decoded
  · rename_i found
    exact (narrow_of_findContainer found).wholeFrames decoded

/-- Whatever there is under a path, audio that is decoded has a channel and is whole frames. -/
theorem decodeFile_wholeFrames {fs : Files} {path : FilePath} {audio : DecodedAudio}
    (decoded : decodeFile fs path = .ok audio) :
    1 ≤ audio.channels.toNat ∧ audio.data.length = audio.frames * audio.channels.toNat := by
  rw [decodeFile] at decoded
  split at decoded
  · cases decoded
  · split at decoded
    · cases decoded
    · cases decoded
  · split at decoded
    · exact wholeFrames_of_decodeWave decoded
    · exact wholeFrames_of_decodeContainer decoded

/-- A file of two channels that was cut off in the middle of its second frame. -/
def cutOff : List UInt8 :=
  [82, 73, 70, 70, 44, 0, 0, 0, 87, 65, 86, 69, 102, 109, 116, 32, 16, 0, 0, 0, 1, 0, 2, 0,
    0x44, 0xAC, 0, 0, 0x10, 0xB1, 2, 0, 4, 0, 16, 0, 100, 97, 116, 97, 8, 0, 0, 0, 7, 0, 8, 0, 9, 0]

/-- What is left of the second frame is dropped. -/
theorem cutOff_wholeFrames :
    let audio : DecodedAudio := ⟨2, 44100, [7, 8]⟩
    decodeFile ⟨"/", [([[98]], .file cutOff)]⟩ ⟨[98]⟩ = .ok audio ∧
      1 ≤ audio.channels.toNat ∧ audio.data.length = audio.frames * audio.channels.toNat := by
  intro audio
  have decoded : decodeFile ⟨"/", [([[98]], .file cutOff)]⟩ ⟨[98]⟩ = .ok audio := by rfl
  exact ⟨decoded, decodeFile_wholeFrames decoded⟩

end SampleBank
