import SampleBank.Engine.SoundFont

/-!
# The RAM engine

An engine that keeps decoded samples in a limited number of slots. It has at most one synth at
a time, to which zones are attached: a sample played over an interval of keys in a program.
Handles of samples are slot numbers, so a handle is used again when its slot has become free
and is the lowest one (`Ram.freeSlot?`); handles of synths are never used again.

A call answers with the engine that it leaves behind, whether it is refused or not.
-/

namespace SampleBank

/-- A sample in a slot. -/
structure RamSample where
  path : FilePath
  rootKey : UInt8
  data : List Int16
deriving DecidableEq

/-- A sample played over an inclusive interval of keys. -/
structure Zone where
  sample : SampleHandle
  lokey : UInt8
  hikey : UInt8
deriving DecidableEq

/-- The synth of a RAM engine. -/
structure RamSynth where
  handle : SynthHandle
  /-- The zones of each program that has any, in the order in which they were added. -/
  zones : SortedMap Program (List Zone)
  /-- The program that was bound last. -/
  selected : Option Program
  /-- The SoundFonts loaded, in order, each with its number. -/
  fonts : List (Nat × FilePath)
deriving DecidableEq

/-- The state of a RAM engine. -/
structure Ram where
  maxSamples : Nat
  sampleRate : UInt32
  synth : Option RamSynth
  nextSynth : Nat
  slots : SortedMap SampleHandle RamSample
deriving DecidableEq

namespace Ram

/-- An engine with `maxSamples` slots for samples recorded at `sampleRate`. -/
def new (maxSamples : Nat) (sampleRate : UInt32) : Ram := ⟨maxSamples, sampleRate, none, 0, .empty⟩

/-- The name of the font that zones belong to. -/
def fontName : String := "Tada"

/-- The least number from `start` on that an ascending list leaves out. -/
def leastGap (start : Nat) : List SampleHandle → Nat
  | [] => start
  | h :: rest => if h.id = start then leastGap (start + 1) rest else start

/-- The lowest slot without a sample. -/
def freeSlot? (r : Ram) : Option SampleHandle :=
  let slot := leastGap 0 r.slots.keys
  if slot < r.maxSamples then some ⟨slot⟩ else none

/-- The number of loaded samples. -/
def liveSamples (r : Ram) : Nat := r.slots.size

/-- The synth, if it is the one with this handle. -/
def synth? (r : Ram) (h : SynthHandle) : Option RamSynth := r.synth.filter (·.handle = h)

/-- The zones of a program, in the order in which they were added. -/
def zones (r : Ram) (h : SynthHandle) (p : Program) : List Zone :=
  ((r.synth? h).bind (·.zones.find? p)).getD []

/-- The program that was bound last. -/
def selected? (r : Ram) (h : SynthHandle) : Option Program := (r.synth? h).bind (·.selected)

/-- The SoundFonts of a synth. -/
def fonts (r : Ram) (h : SynthHandle) : List FilePath :=
  ((r.synth? h).map fun s => s.fonts.map (·.2)).getD []

/-- Creates the synth. -/
def createSynth (r : Ram) : Except EngineError SynthHandle × Ram :=
  match r.synth with
  | some _ => (.error .synthActive, r)
  | none =>
    let h : SynthHandle := ⟨r.nextSynth⟩
    (.ok h, { r with synth := some ⟨h, .empty, none, []⟩, nextSynth := r.nextSynth + 1 })

/-- Destroys the synth with its zones. Another handle is ignored. -/
def destroySynth (r : Ram) (h : SynthHandle) : Ram :=
  if (r.synth? h).isSome then { r with synth := none } else r

/-- The sample that a file holds: mono, at the engine's rate and not empty. -/
def decodeSample (r : Ram) (fs : Files) (path : FilePath) (rootKey : UInt8) :
    Except EngineError RamSample :=
  match decodeFile fs path with
  | .error e => .error (.decode e)
  | .ok audio =>
    if audio.channels ≠ 1 then .error (.notMono audio.channels)
    else if audio.sampleRate ≠ r.sampleRate then
      .error (.sampleRate r.sampleRate audio.sampleRate)
    else if audio.data.isEmpty then .error .emptySample
    else .ok ⟨path, rootKey, audio.data⟩

/-- Loads a sample into the lowest free slot. A full table is noticed before the file is read. -/
def loadSample (r : Ram) (fs : Files) (path : FilePath) (rootKey : UInt8) :
    Except EngineError SampleHandle × Ram :=
  match r.freeSlot? with
  | none => (.error (.noFreeSlot r.maxSamples), r)
  | some h =>
    match r.decodeSample fs path rootKey with
    | .error e => (.error e, r)
    | .ok sample => (.ok h, { r with slots := r.slots.insert h sample })

/-- What is left of a program's zones without those of a sample, if anything. -/
def zonesWithout? (sample : SampleHandle) (zones : List Zone) : Option (List Zone) :=
  let left := zones.filter (·.sample ≠ sample)
  if left.isEmpty then none else some left

/-- Frees a slot and removes the zones of its sample. An empty slot is ignored. -/
def deleteSample (r : Ram) (h : SampleHandle) : Ram :=
  if r.slots.contains h then
    { r with
      slots := r.slots.erase h
      synth := r.synth.map fun s =>
        { s with zones := s.zones.filterMap fun _ zones => zonesWithout? h zones } }
  else r

/-- Attaches a sample to the keys from `lokey` to `hikey` of a program and selects that program. -/
def bind (r : Ram) (h : SynthHandle) (sample : SampleHandle) (p : Program)
    (lokey hikey : UInt8) : Except EngineError Unit × Ram :=
  if r.slots.contains sample then
    if lokey ≤ hikey then
      match r.synth? h with
      | none => (.error (.unknownSynth h), r)
      | some s =>
        let zones := (s.zones.find? p).getD [] ++ [⟨sample, lokey, hikey⟩]
        (.ok (), { r with
          synth := some { s with zones := s.zones.insert p zones, selected := some p } })
    else (.error (.rejected s!"key range {lokey.toNat}-{hikey.toNat} is reversed"), r)
  else (.error (.unknownSample sample), r)

/-- Detaches every zone of a sample from a program. The zones are swept first; if none went, there
was none to detach. -/
def unbind (r : Ram) (h : SynthHandle) (sample : SampleHandle) (p : Program) :
    Except EngineError Unit × Ram :=
  if r.slots.contains sample then
    match r.synth? h with
    | none => (.error (.unknownSynth h), r)
    | some s =>
      match s.zones.find? p with
      | none => (.error .noZone, r)
      | some zones =>
        let left := zones.filter (·.sample ≠ sample)
        let swept := { s with zones := s.zones.insert p left }
        if left.length = zones.length then (.error .noZone, { r with synth := some swept })
        else if left.isEmpty then
          (.ok (), { r with synth := some { swept with zones := swept.zones.erase p } })
        else (.ok (), { r with synth := some swept })
  else (.error (.unknownSample sample), r)

/-- Loads a SoundFont into a synth and returns its number. -/
def loadSoundFont (r : Ram) (fs : Files) (h : SynthHandle) (path : FilePath) :
    Except EngineError Nat × Ram :=
  match r.synth? h with
  | none => (.error (.unknownSynth h), r)
  | some s =>
    match checkSoundFont fs path with
    | .error e => (.error e, r)
    | .ok () =>
      let number := s.fonts.length + 1
      (.ok number, { r with synth := some { s with fonts := s.fonts ++ [(number, path)] } })

/-- How the engine presents itself. -/
def text (r : Ram) : String := s!"RAM engine ({r.maxSamples} slots, {r.sampleRate.toNat}Hz)"

end Ram

end SampleBank
