import SampleBank.Config.Record
import SampleBank.Config.Source
import SampleBank.Layout

/-!
# Settings

What a settings file says: the engine to use, and the layout to load into it. Everything but the
files, root keys and key ranges of samples has a default. `Layout.load` reads a file that holds
a layout alone.
-/

namespace SampleBank

open Config

/-! ### Layouts -/

namespace SampleBinding

/-- The members of a sample in a file. -/
def record : Record := ⟨"SampleBinding", ["file", "root_key", "bank", "preset", "keys"]⟩

/-- A sample of which not all is known yet. -/
structure Draft where
  file : Option String
  rootKey : Option Nat
  bank : Nat
  preset : Nat
  keys : Option (Nat × Nat)

/-- What a member says about a sample. -/
def Draft.set (d : Draft) (key : String) (v : Value) : Except Fault Draft := do
  match key with
  | "file" => return { d with file := some (← string v) }
  | "root_key" => return { d with rootKey := some (← unsigned 8 v) }
  | "bank" => return { d with bank := ← unsigned 16 v }
  | "preset" => return { d with preset := ← unsigned 8 v }
  | "keys" => return { d with keys := some (← pair (unsigned 8) v) }
  | _ => return d

/-- A sample of a configuration. -/
def ofValue (v : Value) : Except Fault SampleBinding := do
  let d ← record.read Draft.set ⟨none, none, 0, 0, none⟩ v
  let file ← record.required v "file" d.file
  let rootKey ← record.required v "root_key" d.rootKey
  let (lokey, hikey) ← record.required v "keys" d.keys
  return ⟨file, UInt8.ofNat rootKey, ⟨UInt16.ofNat d.bank, UInt8.ofNat d.preset⟩,
    UInt8.ofNat lokey, UInt8.ofNat hikey⟩

end SampleBinding

namespace Layout

/-- The members of a layout in a file. -/
def record : Record := ⟨"Layout", ["soundfonts", "samples"]⟩

/-- What a member says about a layout. -/
def set (l : Layout) (key : String) (v : Value) : Except Fault Layout := do
  match key with
  | "soundfonts" => return { l with soundFonts := ← list string v }
  | "samples" => return { l with samples := ← list SampleBinding.ofValue v }
  | _ => return l

/-- A layout of a configuration. -/
def ofValue (v : Value) : Except Fault Layout := record.read set ⟨[], []⟩ v

/-- Reads a layout from a file. -/
def load (fs : Files) (path : FilePath) (foreign : ForeignReader := .none) :
    Except ConfigError Layout :=
  Config.load ofValue fs path foreign

end Layout

/-! ### Settings -/

/-- The policy that a word names. -/
def OverlapPolicy.ofName? (name : String) : Option OverlapPolicy :=
  if name = "reject" then some .reject
  else if name = "last_wins" then some .lastWins
  else none

/-- A policy of a configuration: its word, or a table with the word as its only key. -/
def OverlapPolicy.ofValue (v : Value) : Except Fault OverlapPolicy :=
  let named (name : String) : Except Fault OverlapPolicy :=
    match ofName? name with
    | some policy => .ok policy
    | none => misfit (.noVariant "OverlapPolicy" name)
  match v with
  | .text name => named name
  | .table _ [(name, _)] => named name
  | _ => misfit (.notAVariant "OverlapPolicy")

/-- The engine to use. -/
structure EngineSettings where
  name : String
  maxSamples : Nat
  sampleRate : UInt32
  overlap : OverlapPolicy
deriving DecidableEq

namespace EngineSettings

/-- The members of engine settings in a file. -/
def record : Record := ⟨"EngineSettings", ["name", "max_samples", "sample_rate", "overlap"]⟩

instance : Inhabited EngineSettings := ⟨⟨"ram", 1024, 44100, .reject⟩⟩

/-- What a member says about an engine. -/
def set (s : EngineSettings) (key : String) (v : Value) : Except Fault EngineSettings := do
  match key with
  | "name" => return { s with name := ← string v }
  | "max_samples" => return { s with maxSamples := ← natural v }
  | "sample_rate" => return { s with sampleRate := UInt32.ofNat (← unsigned 32 v) }
  | "overlap" => return { s with overlap := ← OverlapPolicy.ofValue v }
  | _ => return s

/-- Engine settings of a configuration. -/
def ofValue (v : Value) : Except Fault EngineSettings := record.read set default v

/-- Creates the engine: one that only records if its name says that it is a mock, or the one that
plays from memory. There is no other. -/
def engine? (s : EngineSettings) : Option Engine :=
  if "mock".toList.isPrefixOf s.name.toList then some (.mock (.new s.name))
  else if s.name = "ram" then some (.ram (.new s.maxSamples s.sampleRate))
  else none

/-- What is said of an engine that does not exist. -/
def unknownText (s : EngineSettings) : String := s!"unknown engine {s.name}"

end EngineSettings

/-- An engine and what to load into it. -/
structure Settings where
  engine : EngineSettings
  layout : Layout
deriving DecidableEq

namespace Settings

/-- The members of settings in a file. -/
def record : Record := ⟨"Settings", ["engine", "layout"]⟩

/-- What a member says about settings. -/
def set (s : Settings) (key : String) (v : Value) : Except Fault Settings := do
  match key with
  | "engine" => return { s with engine := ← EngineSettings.ofValue v }
  | "layout" => return { s with layout := ← Layout.ofValue v }
  | _ => return s

/-- Settings of a configuration. -/
def ofValue (v : Value) : Except Fault Settings := record.read set ⟨default, ⟨[], []⟩⟩ v

/-- Reads settings from a file. -/
def load (fs : Files) (path : FilePath) (foreign : ForeignReader := .none) :
    Except ConfigError Settings :=
  Config.load ofValue fs path foreign

end Settings

end SampleBank
