import SampleBank.Synth

/-!
# Layouts

A layout names SoundFonts and samples to load, and for each sample the program and the keys on
which it plays. Applying it loads the SoundFonts and then the samples in order, and stops at
the first failure; a sample that cannot be bound is released again. What was applied before a
failure stays.
-/

namespace SampleBank

/-- A sample and the keys on which it plays. -/
structure SampleBinding where
  file : String
  rootKey : UInt8
  program : Program
  lokey : UInt8
  hikey : UInt8
deriving DecidableEq

/-- SoundFonts and samples to load. -/
structure Layout where
  soundFonts : List String
  samples : List SampleBinding
deriving DecidableEq

variable {E : Type} [SampleEngine E]

/-- Loads the sample and binds it. If it cannot be bound it is released again. -/
def SampleBinding.apply (fs : Files) (base : FilePath) (b : SampleBinding) (r : Rig E) :
    Except Error Sample × Rig E :=
  match r.loadSample fs (base.resolve b.file) b.rootKey with
  | (.error e, r) => (.error e, r)
  | (.ok sample, r) =>
    match r.bind b.program b.lokey b.hikey sample.handle with
    | (.ok _, r) => (.ok sample, r)
    | (.error e, r) =>
      match r.releaseSample sample.handle with
      | (.error e, r) => (.error e, r)
      | (.ok (), r) => (.error e, r)

namespace Layout

/-- Loads SoundFonts in order. -/
def applyFonts (fs : Files) (base : FilePath) : List String → Rig E → Except Error Unit × Rig E
  | [], r => (.ok (), r)
  | font :: rest, r =>
    match r.loadSoundFont fs (base.resolve font) with
    | (.error e, r) => (.error e, r)
    | (.ok _, r) => applyFonts fs base rest r

/-- Applies sample bindings in order. -/
def applySamples (fs : Files) (base : FilePath) :
    List SampleBinding → Rig E → Except Error (List Sample) × Rig E
  | [], r => (.ok [], r)
  | b :: rest, r =>
    match b.apply fs base r with
    | (.error e, r) => (.error e, r)
    | (.ok sample, r) =>
      match applySamples fs base rest r with
      | (.error e, r) => (.error e, r)
      | (.ok samples, r) => (.ok (sample :: samples), r)

/-- Loads every SoundFont and then every sample, up to the first failure. -/
def apply (fs : Files) (base : FilePath) (l : Layout) (r : Rig E) :
    Except Error (List Sample) × Rig E :=
  match applyFonts fs base l.soundFonts r with
  | (.error e, r) => (.error e, r)
  | (.ok (), r) => applySamples fs base l.samples r

/-- The guitar that is loaded when no configuration is given. -/
def demo : Layout :=
  let guitar (file : String) (rootKey lokey hikey : UInt8) : SampleBinding :=
    ⟨file, rootKey, ⟨0, 0⟩, lokey, hikey⟩
  ⟨[],
    [guitar "[accord guitar].wav" 55 50 58,
      guitar "cabrel.wav_14.wav" 60 59 59,
      guitar "cabrel.wav_16.wav" 60 60 60,
      guitar "cabrel.wav_15.wav" 62 61 61,
      guitar "cabrel.wav_17.wav" 62 62 62,
      guitar "[TIR].wav" 64 63 63,
      guitar "cabrel.wav_18.wav" 64 64 64,
      guitar "cabrel.wav_5.wav" 64 65 65,
      guitar "cabrel.wav_7.wav" 64 66 66,
      guitar "cabrel.wav_8.wav" 64 67 67,
      guitar "cabrel.wav_19.wav" 64 68 68,
      guitar "cabrel.wav_9.wav" 65 69 69,
      guitar "cabrel.wav_10.wav" 67 70 70,
      guitar "cabrel.wav_11.wav" 69 71 71]⟩

end Layout

end SampleBank
