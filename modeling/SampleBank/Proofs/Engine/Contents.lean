import SampleBank.Proofs.Engine.Refusal

/-!
# What an engine holds

Both engines are seen through the same five questions: which samples are live and what they are
(`Engine.handles`, `Engine.sample?`), which synths there are (`Engine.synths`), which zones a
synth has in a program (`Engine.zones`), and which SoundFonts it has loaded, which only the RAM
engine keeps (`Engine.fonts?`). Each call is described by what it does to the answers.

`Engine.Sound` is the engines' own invariant: every zone belongs to a synth that exists and names
a sample that is live, and handles lie below the number that is given out next. It holds of a new
engine and every call with any arguments keeps it, so a handle that is given out is new.
-/

namespace SampleBank

/-- The zone as its synth and program see it. -/
def MockZone.zone (z : MockZone) : Zone := ⟨z.sample, z.lokey, z.hikey⟩

namespace Mock

/-- The zones of a synth in a program, in the order in which they were added. -/
def zonesOf (m : Mock) (native : SynthHandle) (p : Program) : List Zone :=
  (m.zones.filter fun z => z.synth = native ∧ z.program = p).map (·.zone)

/-- The zones of a synth across its programs, in the order in which they were added. -/
def zonesOfSynth (m : Mock) (native : SynthHandle) : List MockZone :=
  m.zones.filter (·.synth = native)

end Mock

namespace Engine

/-- The handles of the live samples. -/
def handles : Engine → List SampleHandle
  | .ram r => r.slots.keys
  | .mock m => m.samples.keys

/-- A live sample as the engine keeps it; a mock engine keeps no audio. -/
def sample? (h : SampleHandle) : Engine → Option RamSample
  | .ram r => r.slots.find? h
  | .mock m => (m.samples.find? h).map fun (path, rootKey) => ⟨path, rootKey, []⟩

/-- The handles of the synths. -/
def synths : Engine → List SynthHandle
  | .ram r => (r.synth.map (·.handle)).toList
  | .mock m => m.synths.keys

/-- The zones of a synth in a program, in the order in which they were added. -/
def zones (native : SynthHandle) (p : Program) : Engine → List Zone
  | .ram r => r.zones native p
  | .mock m => m.zonesOf native p

/-- The SoundFonts of a synth, if the engine keeps them by synth. -/
def fonts? (native : SynthHandle) : Engine → Option (List FilePath)
  | .ram r => some (r.fonts native)
  | .mock _ => none

/-- Samples have handles below this number. -/
def sampleBound : Engine → Nat
  | .ram r => r.maxSamples
  | .mock m => m.nextSample

/-- Synths have handles below this number, which the next one gets. -/
def synthBound : Engine → Nat
  | .ram r => r.nextSynth
  | .mock m => m.nextSynth

/-- What a call leaves as it was when it does not touch samples. -/
structure KeepsSamples (e e' : Engine) : Prop where
  handles : e'.handles = e.handles
  sample? : ∀ h, e'.sample? h = e.sample? h
  sampleBound : e'.sampleBound = e.sampleBound

/-- What a call leaves as it was when it creates and destroys no synth. -/
structure KeepsSynths (e e' : Engine) : Prop where
  synths : e'.synths = e.synths
  synthBound : e'.synthBound = e.synthBound

/-- All synths have the zones that they had. -/
def KeepsZones (e e' : Engine) : Prop := ∀ native p, e'.zones native p = e.zones native p

/-- A synth has no zones but those that it had, in the same order across its programs. Only a mock
engine keeps such an order. -/
def KeepsOrder (native : SynthHandle) (e e' : Engine) : Prop :=
  ∀ m, e = .mock m → ∃ m', e' = .mock m' ∧
    (m'.zonesOfSynth native).Sublist (m.zonesOfSynth native)

/-- All synths have the SoundFonts that they had. -/
def KeepsFonts (e e' : Engine) : Prop := ∀ native, e'.fonts? native = e.fonts? native

/-- The invariant that every call of an engine keeps. -/
structure Sound (e : Engine) : Prop where
  zone_synth : ∀ {native p z}, z ∈ e.zones native p → native ∈ e.synths
  zone_sample : ∀ {native p z}, z ∈ e.zones native p → z.sample ∈ e.handles
  sample_lt : ∀ h ∈ e.handles, h.id < e.sampleBound
  synth_lt : ∀ native ∈ e.synths, native.id < e.synthBound

variable {e e' : Engine} {native : SynthHandle} {sample h : SampleHandle} {p q : Program}

/-- There are as many handles as live samples. -/
theorem length_handles (e : Engine) : e.handles.length = e.liveSamples := by
  cases e with
  | ram r => exact SortedMap.length_keys _
  | mock m => exact SortedMap.length_keys _

/-- No sample is listed twice. -/
theorem nodup_handles (e : Engine) : e.handles.Nodup := by
  cases e with
  | ram r => exact SortedMap.nodup_keys _
  | mock m => exact SortedMap.nodup_keys _

/-- No synth is listed twice. -/
theorem nodup_synths (e : Engine) : e.synths.Nodup := by
  cases e with
  | ram r => cases hs : r.synth <;> simp [synths, hs]
  | mock m => exact SortedMap.nodup_keys _

/-- A sample is live exactly when the engine has it. -/
theorem mem_handles_iff : h ∈ e.handles ↔ (e.sample? h).isSome = true := by
  cases e with
  | ram r => exact SortedMap.mem_keys_iff
  | mock m =>
    rw [sample?, Option.isSome_map]
    exact SortedMap.mem_keys_iff

/-- A handle without data is not live. -/
theorem sample?_eq_none_iff : e.sample? h = none ↔ h ∉ e.handles := by
  rw [mem_handles_iff, Bool.not_eq_true, Option.isSome_eq_false_iff, Option.isNone_iff_eq_none]

/-- A synth that does not exist has no zones. -/
theorem Sound.zones_eq_nil (hs : e.Sound) (hn : native ∉ e.synths) (p : Program) :
    e.zones native p = [] :=
  List.eq_nil_iff_forall_not_mem.2 fun _ hz => hn (hs.zone_synth hz)

/-- A synth that does not exist has no SoundFonts. -/
theorem eq_nil_of_fonts?_eq_some (hn : native ∉ e.synths) {fonts : List FilePath}
    (hf : e.fonts? native = some fonts) : fonts = [] := by
  cases e with
  | mock m => cases hf
  | ram r =>
    have absent : r.synth? native = none := by
      rw [Ram.synth?, Option.filter_eq_none_iff]
      intro s hs eq
      exact hn (by rw [synths, hs, ← of_decide_eq_true eq]; exact List.mem_singleton_self _)
    rw [← Option.some.inj hf, Ram.fonts, absent]
    rfl

end Engine

/-! ### The RAM engine's synth -/

namespace Ram

variable {r : Ram} {s : RamSynth} {native : SynthHandle} {p : Program}

/-- The synth of a RAM engine is found under its own handle only. -/
theorem synth?_eq (h : r.synth = some s) :
    r.synth? native = if native = s.handle then some s else none := by
  rw [synth?, h, Option.filter_some]
  by_cases hn : native = s.handle
  · simp [hn]
  · simp [hn, Ne.symm hn]

/-- A synth that is rewritten under its handle is found under its handle. -/
theorem synth?_map {r' : Ram} (f : RamSynth → RamSynth) (h : r'.synth = r.synth.map f)
    (hf : ∀ s, (f s).handle = s.handle) (native : SynthHandle) :
    r'.synth? native = (r.synth? native).map f := by
  rw [synth?, synth?, h]
  cases r.synth with
  | none => rfl
  | some s =>
    rw [Option.map_some, Option.filter_some, Option.filter_some, hf]
    split
    · rfl
    · rfl

/-- Only the engine's synth has zones. -/
theorem zones_eq (h : r.synth = some s) (native : SynthHandle) (p : Program) :
    r.zones native p = if native = s.handle then (s.zones.find? p).getD [] else [] := by
  rw [zones, synth?_eq h]
  split
  · rfl
  · rfl

theorem zones_eq_nil (h : r.synth = none) (native : SynthHandle) (p : Program) :
    r.zones native p = [] := by
  rw [zones, synth?, h]
  rfl

/-- Only the engine's synth has SoundFonts. -/
theorem fonts_eq (h : r.synth = some s) (native : SynthHandle) :
    r.fonts native = if native = s.handle then s.fonts.map (·.2) else [] := by
  rw [fonts, synth?_eq h]
  split
  · rfl
  · rfl

theorem fonts_eq_nil (h : r.synth = none) (native : SynthHandle) : r.fonts native = [] := by
  rw [fonts, synth?, h]
  rfl

end Ram

end SampleBank
