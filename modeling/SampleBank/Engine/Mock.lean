import SampleBank.Error

/-!
# The mock engine

An engine that reads no files. It has any number of synths and samples, records what is attached
to them, and can be told to refuse each kind of call. Its handles count up and are never used
again. A call answers with the engine that it leaves behind, whether it is refused or not.
-/

namespace SampleBank

/-- The kinds of calls that a mock engine can be told to refuse. -/
inductive MockCall
  | create
  | load
  | bind
  | unbind
  | soundFont
deriving DecidableEq

/-- A zone of a mock engine. -/
structure MockZone where
  synth : SynthHandle
  sample : SampleHandle
  program : Program
  lokey : UInt8
  hikey : UInt8
deriving DecidableEq

/-- The state of a mock engine. -/
structure Mock where
  name : String
  /-- The calls that are refused. -/
  refused : List MockCall
  synths : SortedMap SynthHandle Unit
  samples : SortedMap SampleHandle (FilePath × UInt8)
  zones : List MockZone
  fonts : List FilePath
  nextSynth : Nat
  nextSample : Nat
deriving DecidableEq

namespace Mock

/-- An engine that refuses nothing. -/
def new (name : String) : Mock := ⟨name, [], .empty, .empty, [], [], 0, 0⟩

/-- Whether a kind of call is refused. -/
def refuses (m : Mock) (call : MockCall) : Bool := m.refused.contains call

/-- Turns the refusal of a kind of call on or off. -/
def setRefusal (m : Mock) (call : MockCall) (on : Bool) : Mock :=
  let others := m.refused.filter (· ≠ call)
  { m with refused := if on then call :: others else others }

/-- The number of synths created and not destroyed. -/
def liveSynths (m : Mock) : Nat := m.synths.size

/-- The number of samples loaded and not deleted. -/
def liveSamples (m : Mock) : Nat := m.samples.size

/-- The number of zones attached. -/
def liveZones (m : Mock) : Nat := m.zones.length

/-- Creates a synth. -/
def createSynth (m : Mock) : Except EngineError SynthHandle × Mock :=
  if m.refuses .create then (.error (.rejected "audio device unavailable"), m)
  else
    let h : SynthHandle := ⟨m.nextSynth⟩
    (.ok h, { m with synths := m.synths.insert h (), nextSynth := m.nextSynth + 1 })

/-- Destroys a synth with its zones. An unknown handle is ignored. -/
def destroySynth (m : Mock) (h : SynthHandle) : Mock :=
  if m.synths.contains h then
    { m with synths := m.synths.erase h, zones := m.zones.filter (·.synth ≠ h) }
  else m

/-- Records a sample. -/
def loadSample (m : Mock) (path : FilePath) (rootKey : UInt8) :
    Except EngineError SampleHandle × Mock :=
  if m.refuses .load then (.error (.rejected s!"unable to load {path.text}"), m)
  else
    let h : SampleHandle := ⟨m.nextSample⟩
    (.ok h, { m with
      samples := m.samples.insert h (path, rootKey), nextSample := m.nextSample + 1 })

/-- Forgets a sample and its zones. An unknown handle is ignored. -/
def deleteSample (m : Mock) (h : SampleHandle) : Mock :=
  if m.samples.contains h then
    { m with samples := m.samples.erase h, zones := m.zones.filter (·.sample ≠ h) }
  else m

/-- Attaches a sample to the keys from `lokey` to `hikey` of a program. -/
def bind (m : Mock) (h : SynthHandle) (sample : SampleHandle) (p : Program)
    (lokey hikey : UInt8) : Except EngineError Unit × Mock :=
  if m.refuses .bind then (.error (.rejected "zone not accepted"), m)
  else if m.synths.contains h then
    if m.samples.contains sample then
      (.ok (), { m with zones := m.zones ++ [⟨h, sample, p, lokey, hikey⟩] })
    else (.error (.unknownSample sample), m)
  else (.error (.unknownSynth h), m)

/-- Detaches every zone of a sample from a program of a synth. The zones are swept first; if none
went, there was none to detach. -/
def unbind (m : Mock) (h : SynthHandle) (sample : SampleHandle) (p : Program) :
    Except EngineError Unit × Mock :=
  if m.refuses .unbind then (.error (.rejected "zone is busy"), m)
  else
    let left := m.zones.filter fun z => ¬(z.synth = h ∧ z.sample = sample ∧ z.program = p)
    let swept := { m with zones := left }
    if left.length = m.zones.length then (.error .noZone, swept) else (.ok (), swept)

/-- Records a SoundFont and returns its number. -/
def loadSoundFont (m : Mock) (h : SynthHandle) (path : FilePath) :
    Except EngineError Nat × Mock :=
  if m.refuses .soundFont then (.error (.rejected s!"{path.text} rejected"), m)
  else if m.synths.contains h then
    (.ok (m.fonts.length + 1), { m with fonts := m.fonts ++ [path] })
  else (.error (.unknownSynth h), m)

/-- How the engine presents itself. -/
def text (m : Mock) : String := s!"{m.name} (Mock)"

end Mock

end SampleBank
