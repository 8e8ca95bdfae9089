import SampleBank.Proofs.Layout.DryRun
import SampleBank.Proofs.Layout.Meaning
import SampleBank.Proofs.Router.Log

/-!
# Layouts on a new engine

A new engine gives its samples the handles 0, 1, 2 and so on for as long as none is deleted: the
mock engine counts them, and the RAM engine takes the least free slot (`Engine.FilledTo`). Applying
a layout deletes nothing until it fails. So where it succeeds, the i-th binding has the sample with
the handle i, and as the handles ascend the store lists the samples in the order of the layout.

`Rig.Filled` says that a synthesizer has the SoundFonts, samples and ranges of a layout and nothing
else. Each SoundFont and each binding that is applied extends it by one, and what it means for what
can be asked of the synthesizer is `Synth.Holds`.
-/

namespace SampleBank

variable {fs : Files} {base path : FilePath} {native : SynthHandle} {h : SampleHandle}
  {p : Program} {lokey hikey rootKey : UInt8}

/-! ### Handles -/

namespace Engine

variable {e e' : Engine} {n : Nat}

/-- Whether the samples of an engine have been given the handles below a number, which is next. -/
def FilledTo (n : Nat) : Engine → Prop
  | .ram r => ∀ h, h ∈ r.slots.keys ↔ h.id < n
  | .mock m => m.nextSample = n

/-- Where the first samples are there, the next one that is loaded is the next in number. -/
theorem FilledTo.loadSample (filled : e.FilledTo n)
    (loaded : e.loadSample fs path rootKey = (.ok h, e')) : h = ⟨n⟩ ∧ e'.FilledTo (n + 1) := by
  cases e with
  | ram r =>
    obtain ⟨r', agreed, rfl⟩ := exists_of_map_eq loaded
    obtain ⟨data, -, free, rfl⟩ := Ram.of_loadSample_ok agreed
    rw [Ram.freeSlot?, Ram.leastGap_eq filled] at free
    split at free
    · obtain rfl := Option.some.inj free
      exact ⟨rfl, Ram.taken_insert filled _⟩
    · cases free
  | mock m =>
    obtain ⟨m', agreed, rfl⟩ := exists_of_map_eq loaded
    obtain ⟨rfl, rfl⟩ := Mock.of_loadSample_ok agreed
    exact ⟨congrArg SampleHandle.mk filled, congrArg Nat.succ filled⟩

/-- Attaching loads nothing. -/
theorem FilledTo.bind (filled : e.FilledTo n)
    (bound : e.bind native h p lokey hikey = (.ok (), e')) : e'.FilledTo n := by
  cases e with
  | ram r =>
    obtain ⟨r', agreed, rfl⟩ := exists_of_map_eq bound
    obtain ⟨s, -, -, -, rfl⟩ := Ram.of_bind_ok agreed
    exact filled
  | mock m =>
    obtain ⟨m', agreed, rfl⟩ := exists_of_map_eq bound
    obtain ⟨-, -, rfl⟩ := Mock.of_bind_ok agreed
    exact filled

/-- A SoundFont is no sample. -/
theorem FilledTo.loadSoundFont {number : Nat} (filled : e.FilledTo n)
    (loaded : e.loadSoundFont fs native path = (.ok number, e')) : e'.FilledTo n := by
  cases e with
  | ram r =>
    obtain ⟨r', agreed, rfl⟩ := exists_of_map_eq loaded
    obtain ⟨s, -, -, rfl⟩ := Ram.of_loadSoundFont_ok agreed
    exact filled
  | mock m =>
    obtain ⟨m', agreed, rfl⟩ := exists_of_map_eq loaded
    obtain ⟨-, -, rfl⟩ := Mock.of_loadSoundFont_ok agreed
    exact filled

end Engine

/-! ### One part of a layout at a time -/

/-- The sample of a binding that comes behind `i` others. -/
def SampleBinding.sampleAt (base : FilePath) (i : Nat) (b : SampleBinding) : Sample :=
  ⟨⟨i⟩, base.resolve b.file, b.rootKey⟩

/-- An open synthesizer with the SoundFonts, samples and ranges of a layout and no others. -/
structure Rig.Filled (base : FilePath) (l : Layout) (r : Rig Engine) : Prop where
  active : ∃ native, r.synth.PlaysOn native
  engine : r.engine.FilledTo l.samples.length
  soundFonts : r.synth.soundFonts = l.soundFonts.map base.resolve
  samples : r.synth.store.samples.toList = l.samples.mapIdx fun i b => (⟨i⟩, b.sampleAt base i)
  ranges : ∃ log, r.synth.router.Follows log ∧
    (log.map fun e => (e.1, e.2.zone)) = l.samples.mapIdx fun i b => (b.program, b.zone ⟨i⟩)

namespace Rig

variable {r r' : Rig Engine} {l : Layout} {policy : OverlapPolicy}

/-- A fresh synthesizer on a mock engine is filled with the empty layout. -/
theorem filled_fresh (base : FilePath) (name : String) (policy : OverlapPolicy) :
    (fresh name policy).Filled base ⟨[], []⟩ :=
  ⟨⟨⟨0⟩, rfl, rfl⟩, rfl, rfl, rfl, [], .empty policy, rfl⟩

/-- So is one on a RAM engine. -/
theorem filled_freshRam (base : FilePath) (maxSamples : Nat) (sampleRate : UInt32)
    (policy : OverlapPolicy) : (freshRam maxSamples sampleRate policy).Filled base ⟨[], []⟩ :=
  ⟨⟨⟨0⟩, rfl, rfl⟩, fun _ => ⟨nofun, nofun⟩, rfl, rfl, [], .empty policy, rfl⟩

/-- A SoundFont that is loaded is the next one of the layout. -/
theorem Filled.loadSoundFont {font : String} {number : Nat} (filled : r.Filled base l)
    (loaded : r.loadSoundFont fs (base.resolve font) = (.ok number, r')) :
    r'.Filled base ⟨l.soundFonts ++ [font], l.samples⟩ := by
  obtain ⟨native, e', -, agreed, rfl⟩ := of_loadSoundFont_ok loaded
  refine ⟨filled.active, filled.engine.loadSoundFont agreed, ?_, filled.samples, filled.ranges⟩
  rw [List.map_append, ← filled.soundFonts]
  rfl

/-- A binding gets the next handle, which lies above those of the others, so its sample comes last
in the store. -/
theorem Filled.apply {b : SampleBinding} {sample : Sample} (filled : r.Filled base l)
    (applied : b.apply fs base r = (.ok sample, r')) :
    sample = b.sampleAt base l.samples.length ∧
      r'.Filled base ⟨l.soundFonts, l.samples ++ [b]⟩ := by
  obtain ⟨r₁, range, loaded, bound⟩ := SampleBinding.of_apply_ok applied
  obtain ⟨_, e₁, -, agreed, recorded, rfl⟩ := of_loadSample_ok loaded
  obtain ⟨_, e₂, -, zone, -, -, attached, rfl⟩ := of_bind_ok bound
  obtain ⟨next, engine⟩ := filled.engine.loadSample agreed
  obtain ⟨log, follows, entries⟩ := filled.ranges
  rw [next] at recorded zone
  refine ⟨recorded, filled.active, ?_, filled.soundFonts, ?_,
    log ++ [(b.program, range)], follows.insert b.program range, ?_⟩
  · rw [List.length_append]
    exact engine.bind attached
  · have above : ∀ e ∈ r.synth.store.samples.toList,
        Numbered.number e.1 < Numbered.number (⟨l.samples.length⟩ : SampleHandle) := by
      rw [filled.samples]
      intro e he
      obtain ⟨i, lt, rfl⟩ := List.mem_mapIdx.1 he
      exact lt
    simp only [next]
    rw [SortedMap.toList_insert_of_lt _ above, filled.samples, List.mapIdx_concat, recorded]
    rfl
  · rw [List.map_append, entries, List.mapIdx_concat, List.map_singleton, zone]
    rfl

end Rig

/-! ### Whole layouts -/

namespace Layout

variable {r r' : Rig Engine} {l : Layout} {samples : List Sample}

/-- SoundFonts that are loaded in order are those of the layout. -/
theorem filled_applyFonts {fonts : List String} (filled : r.Filled base l)
    (applied : applyFonts fs base fonts r = (.ok (), r')) :
    r'.Filled base ⟨l.soundFonts ++ fonts, l.samples⟩ := by
  induction fonts generalizing r l with
  | nil =>
    obtain rfl := (Prod.mk.inj applied).2
    rwa [List.append_nil]
  | cons font later ih =>
    rw [applyFonts] at applied
    split at applied
    · cases (Prod.mk.inj applied).1
    · rename_i loaded
      have left := ih (filled.loadSoundFont loaded) applied
      rwa [List.append_assoc] at left

/-- Samples that are bound in order have ascending handles, from the number of those before them
on. -/
theorem filled_applySamples {bindings : List SampleBinding} (filled : r.Filled base l)
    (applied : applySamples fs base bindings r = (.ok samples, r')) :
    samples = bindings.mapIdx (fun i b => b.sampleAt base (l.samples.length + i)) ∧
      r'.Filled base ⟨l.soundFonts, l.samples ++ bindings⟩ := by
  induction bindings generalizing r l samples with
  | nil =>
    obtain ⟨answer, rfl⟩ := Prod.mk.inj applied
    obtain rfl := Except.ok.inj answer
    rw [List.append_nil]
    exact ⟨rfl, filled⟩
  | cons b later ih =>
    rw [applySamples] at applied
    split at applied
    · cases (Prod.mk.inj applied).1
    · rename_i sample r₁ first
      obtain ⟨recorded, filled₁⟩ := filled.apply first
      split at applied
      · cases (Prod.mk.inj applied).1
      · rename_i samples' r₂ second
        obtain ⟨answer, rfl⟩ := Prod.mk.inj applied
        obtain rfl := Except.ok.inj answer
        obtain ⟨others, left⟩ := ih filled₁ second
        rw [List.append_assoc] at left
        refine ⟨?_, left⟩
        rw [List.mapIdx_cons, recorded, others, List.length_append]
        simp only [List.length_singleton, Nat.add_assoc, Nat.add_comm 1, Nat.add_zero]

/-- A layout that is applied fills a synthesizer that is empty, and answers with the samples in its
order. -/
theorem filled_apply (filled : r.Filled base ⟨[], []⟩)
    (applied : l.apply fs base r = (.ok samples, r')) :
    samples = l.samples.mapIdx (fun i b => b.sampleAt base i) ∧ r'.Filled base l := by
  rw [apply] at applied
  split at applied
  · cases (Prod.mk.inj applied).1
  · rename_i r₁ loaded
    obtain ⟨answer, left⟩ := filled_applySamples (filled_applyFonts filled loaded) applied
    simp only [List.length_nil, Nat.zero_add, List.nil_append] at answer left
    exact ⟨answer, left⟩

end Layout

/-! ### What can be asked -/

/-- A synthesizer answers with the SoundFonts, samples and ranges of a layout. The i-th binding has
the sample with the handle `i`, and ranges are listed in an order of their own. -/
structure Synth.Holds (base : FilePath) (l : Layout) (s : Synth) : Prop where
  soundFonts : s.loadedFonts = .ok (l.soundFonts.map base.resolve)
  samples : s.samples = .ok (l.samples.mapIdx fun i b => b.sampleAt base i)
  bindings : ∃ bound, s.bindings = .ok bound ∧
    (bound.map fun e => (e.1, e.2.zone)).Perm
      (l.samples.mapIdx fun i b => (b.program, b.zone ⟨i⟩))

/-- A synthesizer that is filled with a layout holds what the layout lists. -/
theorem Rig.Filled.holds {r : Rig Engine} {l : Layout} (filled : r.Filled base l) :
    r.synth.Holds base l := by
  obtain ⟨native, active⟩ := filled.active
  have native_ok := Synth.native_eq_ok_iff.2 active
  obtain ⟨log, follows, entries⟩ := filled.ranges
  refine ⟨?_, ?_, r.synth.router.bindings, ?_, ?_⟩
  · rw [Synth.loadedFonts, native_ok, filled.soundFonts]
    rfl
  · have listed : r.synth.store.handles.filterMap r.synth.store.lookup =
        r.synth.store.samples.values := SortedMap.filterMap_find?_keys _
    rw [Synth.samples, native_ok, listed, SortedMap.values, filled.samples]
    simp only [List.mapIdx_eq_zipIdx_map, List.map_map]
    rfl
  · rw [Synth.bindings, native_ok]
    rfl
  · rw [follows.answers.bindings, ← entries]
    exact (List.mergeSort_perm log _).map _

/-- There are as many ranges as bindings. -/
theorem Synth.Holds.length_bindings {s : Synth} {l : Layout} (holds : s.Holds base l) :
    ∃ bound, s.bindings = .ok bound ∧ bound.length = l.samples.length := by
  obtain ⟨bound, answered, perm⟩ := holds.bindings
  refine ⟨bound, answered, ?_⟩
  have length := perm.length_eq
  rwa [List.length_map, List.length_mapIdx] at length

end SampleBank
