import SampleBank.Engine.Mock
import SampleBank.Engine.Ram

/-!
# Engines

What stores and synthesizers need of an engine is a `SampleEngine`: it creates and destroys synths,
loads and deletes samples, and attaches samples to key ranges. Every call answers with the engine
that it leaves behind. Nothing is said of what the calls do, so an operation on a store or a
synthesizer is an operation with any engine.

There are two engines, one that plays from memory and a mock that only records, and `Engine` is
whichever is in use; every call is handed to it.
-/

namespace SampleBank

/-- What stores and synthesizers ask of an engine, whose state is of type `E`. -/
class SampleEngine (E : Type) where
  /-- Creates a synth. -/
  createSynth : E → Except EngineError SynthHandle × E
  /-- Destroys a synth. -/
  destroySynth (h : SynthHandle) : E → E
  /-- Loads an audio file as a sample that plays at its recorded rate on `rootKey`. -/
  loadSample (fs : Files) (path : FilePath) (rootKey : UInt8) :
    E → Except EngineError SampleHandle × E
  /-- Frees a sample. -/
  deleteSample (sample : SampleHandle) : E → E
  /-- Attaches a sample to a key range of a program. -/
  bind (h : SynthHandle) (sample : SampleHandle) (p : Program) (lokey hikey : UInt8) :
    E → Except EngineError Unit × E
  /-- Detaches every key range of a sample from a program. -/
  unbind (h : SynthHandle) (sample : SampleHandle) (p : Program) :
    E → Except EngineError Unit × E
  /-- Loads a SoundFont into a synth and returns its number. -/
  loadSoundFont (fs : Files) (h : SynthHandle) (path : FilePath) : E → Except EngineError Nat × E
  /-- How the engine presents itself. -/
  text : E → String

/-- An engine in use. -/
inductive Engine
  | ram (state : Ram)
  | mock (state : Mock)
deriving DecidableEq

namespace Engine

/-- Creates a synth. -/
def createSynth : Engine → Except EngineError SynthHandle × Engine
  | .ram r => r.createSynth.map id .ram
  | .mock m => m.createSynth.map id .mock

/-- Destroys a synth and every zone attached to it. An unknown handle is ignored. -/
def destroySynth (h : SynthHandle) : Engine → Engine
  | .ram r => .ram (r.destroySynth h)
  | .mock m => .mock (m.destroySynth h)

/-- Loads an audio file as a sample that plays at its recorded rate on `rootKey`. -/
def loadSample (fs : Files) (path : FilePath) (rootKey : UInt8) :
    Engine → Except EngineError SampleHandle × Engine
  | .ram r => (r.loadSample fs path rootKey).map id .ram
  | .mock m => (m.loadSample path rootKey).map id .mock

/-- Frees a sample. An unknown handle is ignored. -/
def deleteSample (sample : SampleHandle) : Engine → Engine
  | .ram r => .ram (r.deleteSample sample)
  | .mock m => .mock (m.deleteSample sample)

/-- Attaches a sample to a key range of a program. -/
def bind (h : SynthHandle) (sample : SampleHandle) (p : Program) (lokey hikey : UInt8) :
    Engine → Except EngineError Unit × Engine
  | .ram r => (r.bind h sample p lokey hikey).map id .ram
  | .mock m => (m.bind h sample p lokey hikey).map id .mock

/-- Detaches every key range of a sample from a program. -/
def unbind (h : SynthHandle) (sample : SampleHandle) (p : Program) :
    Engine → Except EngineError Unit × Engine
  | .ram r => (r.unbind h sample p).map id .ram
  | .mock m => (m.unbind h sample p).map id .mock

/-- Loads a SoundFont into a synth and returns its number. -/
def loadSoundFont (fs : Files) (h : SynthHandle) (path : FilePath) :
    Engine → Except EngineError Nat × Engine
  | .ram r => (r.loadSoundFont fs h path).map id .ram
  | .mock m => (m.loadSoundFont h path).map id .mock

/-- The number of loaded samples. -/
def liveSamples : Engine → Nat
  | .ram r => r.liveSamples
  | .mock m => m.liveSamples

/-- How an engine presents itself. -/
def text : Engine → String
  | .ram r => r.text
  | .mock m => m.text

instance : SampleEngine Engine where
  createSynth := createSynth
  destroySynth := destroySynth
  loadSample := loadSample
  deleteSample := deleteSample
  bind := bind
  unbind := unbind
  loadSoundFont := loadSoundFont
  text := text

end Engine

end SampleBank
