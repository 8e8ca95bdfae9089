import SampleBank.Proofs.Engine.Slots
import SampleBank.Proofs.Layout.Apply
import SampleBank.Proofs.Synth.Willing

/-!
# Dry runs

A mock engine reads no files, so a layout can be tried on it before the samples are there. Where the
samples are fit for the RAM engine and it has room for all of them, this tells what will happen
(`Layout.apply_fresh_answers_eq_freshRam`): the same samples under the same handles, or the same
error, and in the end two synthesizers that answer every question alike.

The engines have little in common. One counts its handles up and the other takes the lowest free
slot, and they look at different things before they agree to a call. What the two share while a
layout is applied is `Engine.Poised`: they refuse nothing, and the next sample gets the number of
those before. So an operation depends on the synthesizer alone (`Rig.SameOutcome`), up to the first
failure. From there on the handles of the two would differ, but nothing more is loaded.
-/

namespace SampleBank

variable {fs : Files} {paths fonts : List FilePath} {next left : Nat} {path : FilePath}
  {p : Program} {h : SampleHandle} {native : SynthHandle} {lokey hikey rootKey : UInt8}

/-! ### Engines -/

namespace Engine

/-- An engine that refuses none of the given files, whose samples are those below the number `next`,
and that has room for `left` more. -/
def Poised (fs : Files) (paths fonts : List FilePath) (next left : Nat) : Engine → Prop
  | .mock m => m.refused = [] ∧ m.nextSample = next
  | .ram r => (∀ h, h ∈ r.slots.keys ↔ h.id < next) ∧ next + left ≤ r.maxSamples ∧
      (∀ path ∈ paths, Fit fs r.sampleRate path) ∧
        ∀ font ∈ fonts, checkSoundFont fs font = .ok ()

variable {e : Engine}

/-- A listed file is loaded, under the next handle, if there is room left. -/
theorem Poised.loadSample (poised : e.Poised fs paths fonts next (left + 1))
    (listed : path ∈ paths) (rootKey : UInt8) :
    ∃ e', e.loadSample fs path rootKey = (.ok ⟨next⟩, e') ∧
      e'.Poised fs paths fonts (next + 1) left := by
  cases e with
  | mock m =>
    obtain ⟨willing, rfl⟩ := poised
    rw [Engine.loadSample, Mock.loadSample, refuses_eq_false willing]
    exact ⟨_, rfl, willing, rfl⟩
  | ram r =>
    obtain ⟨taken, room, fit, intact⟩ := poised
    obtain ⟨audio, -, decoded⟩ := Ram.decodeSample_of_fit (fit path listed) rootKey
    rw [Engine.loadSample, Ram.loadSample, Ram.freeSlot?_eq taken (by omega), decoded]
    exact ⟨_, rfl, Ram.taken_insert taken _, by rw [Nat.add_right_comm]; exact room, fit,
      intact⟩

/-- What is live can be attached to keys in order. -/
theorem Poised.bind (poised : e.Poised fs paths fonts next left) (synth : native ∈ e.synths)
    (live : h ∈ e.handles) (ordered : lokey ≤ hikey) (p : Program) :
    ∃ e', e.bind native h p lokey hikey = (.ok (), e') ∧ e'.Poised fs paths fonts next left := by
  cases e with
  | mock m =>
    obtain ⟨willing, rfl⟩ := poised
    have exists_synth : m.synths.contains native = true := SortedMap.mem_keys_iff.1 synth
    have exists_sample : m.samples.contains h = true := SortedMap.mem_keys_iff.1 live
    rw [Engine.bind, Mock.bind, refuses_eq_false willing, exists_synth, exists_sample]
    exact ⟨_, rfl, willing, rfl⟩
  | ram r =>
    obtain ⟨s, found⟩ := mem_synths_ram_iff.1 synth
    have exists_sample : r.slots.contains h = true := SortedMap.mem_keys_iff.1 live
    rw [Engine.bind, Ram.bind_eq_ok exists_sample ordered found]
    exact ⟨_, rfl, poised⟩

/-- A listed SoundFont is loaded. -/
theorem Poised.loadSoundFont (poised : e.Poised fs paths fonts next left)
    (synth : native ∈ e.synths) (listed : path ∈ fonts) :
    ∃ number e', e.loadSoundFont fs native path = (.ok number, e') ∧
      e'.Poised fs paths fonts next left := by
  cases e with
  | mock m =>
    obtain ⟨willing, rfl⟩ := poised
    have exists_synth : m.synths.contains native = true := SortedMap.mem_keys_iff.1 synth
    rw [Engine.loadSoundFont, Mock.loadSoundFont, refuses_eq_false willing, exists_synth]
    exact ⟨_, _, rfl, willing, rfl⟩
  | ram r =>
    obtain ⟨s, found⟩ := mem_synths_ram_iff.1 synth
    have intact := poised.2.2.2 path listed
    rw [Engine.loadSoundFont, Ram.loadSoundFont, found]
    simp only [intact]
    exact ⟨_, _, rfl, poised⟩

end Engine

/-! ### Two synthesizers in step -/

namespace Rig

variable {r d : Rig Engine}

/-- An open synthesizer that shares its engine with nobody, and whose engine is poised. -/
structure Poised (fs : Files) (paths fonts : List FilePath) (next left : Nat) (r : Rig Engine) :
    Prop where
  beside : r.Beside [] []
  engine : r.engine.Poised fs paths fonts next left
  active : ∃ native, r.synth.PlaysOn native

/-- Two synthesizers that are alike, on engines that will give the next sample the same number. -/
structure InStep (fs : Files) (paths fonts : List FilePath) (next left : Nat) (d r : Rig Engine) :
    Prop where
  left_poised : d.Poised fs paths fonts next left
  right_poised : r.Poised fs paths fonts next left
  synth : d.synth = r.synth

/-- Two runs end alike: they answer the same and leave synthesizers that are alike, and if they
succeed `P` holds of what they leave. -/
inductive SameOutcome {α : Type} (P : Rig Engine → Rig Engine → Prop) :
    Except Error α × Rig Engine → Except Error α × Rig Engine → Prop
  | ok {d r : Rig Engine} (answer : α) :
    d.synth = r.synth → P d r → SameOutcome P (.ok answer, d) (.ok answer, r)
  | error {d r : Rig Engine} (cause : Error) :
    d.synth = r.synth → SameOutcome P (.error cause, d) (.error cause, r)

/-- Two runs with one outcome give the same answer. -/
theorem SameOutcome.answer_eq {α : Type} {P : Rig Engine → Rig Engine → Prop}
    {a b : Except Error α × Rig Engine} (ends : SameOutcome P a b) : a.1 = b.1 := by
  cases ends with
  | ok | error => rfl

/-- Two runs with one outcome leave the same synthesizer. -/
theorem SameOutcome.synth_eq {α : Type} {P : Rig Engine → Rig Engine → Prop}
    {a b : Except Error α × Rig Engine} (ends : SameOutcome P a b) : a.2.synth = b.2.synth := by
  cases ends with
  | ok _ same | error _ same => exact same

/-- A file that is fit is loaded if the root key is a key, under the next number. -/
theorem Poised.loadSample (poised : r.Poised fs paths fonts next (left + 1))
    (listed : path ∈ paths) (valid : rootKey ≤ maxKey) :
    ∃ r', r.loadSample fs path rootKey = (.ok ⟨⟨next⟩, path, rootKey⟩, r') ∧
      r'.Poised fs paths fonts (next + 1) left ∧
      r'.synth = { r.synth with
        store := ⟨r.synth.store.samples.insert ⟨next⟩ ⟨⟨next⟩, path, rootKey⟩⟩ } := by
  have moves := moves_loadSample poised.beside fs path rootKey
  obtain ⟨native, active⟩ := poised.active
  obtain ⟨e', agreed, poised'⟩ := poised.engine.loadSample listed rootKey
  have loaded := loadSample_eq_ok active valid agreed
  rw [loaded] at moves
  exact ⟨_, loaded, ⟨moves.beside, poised', native, active⟩, rfl⟩

/-- Loading a listed file keeps the two in step. -/
theorem InStep.loadSample (s : InStep fs paths fonts next (left + 1) d r) (listed : path ∈ paths)
    (rootKey : UInt8) :
    SameOutcome (InStep fs paths fonts (next + 1) left) (d.loadSample fs path rootKey)
      (r.loadSample fs path rootKey) := by
  by_cases valid : rootKey ≤ maxKey
  · obtain ⟨d', loaded, poised, synth_eq⟩ := s.left_poised.loadSample listed valid
    obtain ⟨r', loaded', poised', synth_eq'⟩ := s.right_poised.loadSample listed valid
    have same : d'.synth = r'.synth := by rw [synth_eq, synth_eq', s.synth]
    rw [loaded, loaded']
    exact .ok _ same ⟨poised, poised', same⟩
  · obtain ⟨native, active⟩ := s.right_poised.active
    rw [loadSample_of_invalid active valid, loadSample_of_invalid (s.synth ▸ active) valid]
    exact .error _ s.synth

/-- What passes the checks is bound, as a poised engine agrees to it. -/
theorem Poised.bind (poised : r.Poised fs paths fonts next left) {range : KeyRange}
    (checked : r.synth.checkBind p lokey hikey h = .ok range) :
    ∃ r', r.bind p lokey hikey h = (.ok range, r') ∧ r'.Poised fs paths fonts next left ∧
      r'.synth = { r.synth with router := r.synth.router.insert p range } := by
  have moves := moves_bind poised.beside p lokey hikey h
  obtain ⟨native, active⟩ := poised.active
  obtain ⟨zone, held, passed⟩ := Synth.of_checkBind_ok checked
  obtain ⟨-, rfl, rfl⟩ := Zone.mk.inj zone
  obtain ⟨e', agreed, poised'⟩ := poised.engine.bind (poised.beside.synth_mem active)
    (poised.beside.store.held_live held) range.lokey_le_hikey p
  have made := KeyRange.make?_eq_ok_iff.2 ⟨rfl, rfl, congrArg Zone.sample zone⟩
  have bound := bind_eq_ok active made held passed agreed
  rw [bound] at moves ⊢
  exact ⟨_, rfl, ⟨moves.beside, poised', native, active⟩, rfl⟩

/-- Whether a sample can be bound is decided by the synthesizer alone. -/
theorem InStep.bind (s : InStep fs paths fonts next left d r) (p : Program) (lokey hikey : UInt8)
    (h : SampleHandle) :
    SameOutcome (InStep fs paths fonts next left) (d.bind p lokey hikey h)
      (r.bind p lokey hikey h) := by
  cases checked : r.synth.checkBind p lokey hikey h with
  | error e =>
    obtain ⟨native, active⟩ := s.right_poised.active
    rw [bind_eq active, bind_eq (s.synth ▸ active), s.synth, checked]
    exact .error e s.synth
  | ok range =>
    obtain ⟨d', bound, poised, synth_eq⟩ := s.left_poised.bind (s.synth ▸ checked)
    obtain ⟨r', bound', poised', synth_eq'⟩ := s.right_poised.bind checked
    have same : d'.synth = r'.synth := by rw [synth_eq, synth_eq', s.synth]
    rw [bound, bound']
    exact .ok range same ⟨poised, poised', same⟩

/-- A sample is released alike, whatever the engines say to it. -/
theorem releaseSample_of_synth_eq (active : r.synth.PlaysOn native)
    (same : d.synth = r.synth) (h : SampleHandle) :
    ∃ d' r', d.releaseSample h = (.ok (), d') ∧ r.releaseSample h = (.ok (), r') ∧
      d'.synth = r'.synth := by
  refine ⟨_, _, releaseSample_eq (same ▸ active), releaseSample_eq active, ?_⟩
  simp only [Store.fst_release, same]

/-- A listed SoundFont is loaded and recorded behind the others. -/
theorem Poised.loadSoundFont (poised : r.Poised fs paths fonts next left) (listed : path ∈ fonts) :
    ∃ number r', r.loadSoundFont fs path = (.ok number, r') ∧ r'.Poised fs paths fonts next left ∧
      r'.synth = { r.synth with soundFonts := r.synth.soundFonts ++ [path] } := by
  have moves := moves_loadSoundFont poised.beside fs path
  obtain ⟨native, active⟩ := poised.active
  obtain ⟨number, e', agreed, poised'⟩ := poised.engine.loadSoundFont
    (poised.beside.synth_mem active) listed
  have loaded := loadSoundFont_eq_ok active agreed
  rw [loaded] at moves
  exact ⟨number, _, loaded, ⟨moves.beside, poised', native, active⟩, rfl⟩

/-- A synthesizer opened on a new RAM engine. -/
def freshRam (maxSamples : Nat) (sampleRate : UInt32) (policy : OverlapPolicy) : Rig Engine :=
  (start ⟨.new policy, .ram (.new maxSamples sampleRate)⟩).2

/-- A mock engine is poised for any files. -/
theorem poised_fresh (fs : Files) (paths fonts : List FilePath) (left : Nat) (name : String)
    (policy : OverlapPolicy) : (fresh name policy).Poised fs paths fonts 0 left where
  beside := (ready_fresh name policy).beside
  engine := ⟨rfl, rfl⟩
  active := ⟨⟨0⟩, rfl, rfl⟩

/-- A RAM engine is poised for files that are fit for it, as many as it has room for. -/
theorem poised_freshRam {maxSamples : Nat} {sampleRate : UInt32} (room : left ≤ maxSamples)
    (fit : ∀ path ∈ paths, Engine.Fit fs sampleRate path)
    (intact : ∀ font ∈ fonts, checkSoundFont fs font = .ok ()) (policy : OverlapPolicy) :
    (freshRam maxSamples sampleRate policy).Poised fs paths fonts 0 left where
  beside := by
    have new := beside_new (Engine.sound_new_ram maxSamples sampleRate) (.refl _) (.refl _) policy
    exact (moves_start new).beside
  engine := ⟨fun _ => ⟨nofun, nofun⟩, by rw [Nat.zero_add]; exact room, fit, intact⟩
  active := ⟨⟨0⟩, rfl, rfl⟩

end Rig

/-! ### Layouts -/

open Rig

variable {d r : Rig Engine} {base : FilePath}

/-- Where the binding is refused the sample is released on both sides. -/
theorem SampleBinding.sameOutcome_apply (b : SampleBinding)
    (s : InStep fs paths fonts next (left + 1) d r) (listed : base.resolve b.file ∈ paths) :
    SameOutcome (InStep fs paths fonts (next + 1) left)
      (b.apply fs base d) (b.apply fs base r) := by
  have load := s.loadSample listed b.rootKey
  rw [apply, apply]
  rcases loaded : d.loadSample fs (base.resolve b.file) b.rootKey with ⟨answer, d₁⟩
  rcases loaded' : r.loadSample fs (base.resolve b.file) b.rootKey with ⟨answer', r₁⟩
  rw [loaded, loaded'] at load
  cases load with
  | error cause same => exact .error cause same
  | ok sample same s₁ =>
    have bind := s₁.bind b.program b.lokey b.hikey sample.handle
    simp only
    rcases bound : d₁.bind b.program b.lokey b.hikey sample.handle with ⟨answer, d₂⟩
    rcases bound' : r₁.bind b.program b.lokey b.hikey sample.handle with ⟨answer', r₂⟩
    rw [bound, bound'] at bind
    cases bind with
    | ok range same s₂ => exact .ok sample same s₂
    | error cause same =>
      obtain ⟨native, active⟩ := s₁.right_poised.active
      obtain ⟨d₃, r₃, released, released', same⟩ :=
        releaseSample_of_synth_eq (eq_of_bind_error bound' ▸ active) same sample.handle
      simp only [released, released']
      exact .error cause same

namespace Layout

/-- The bindings of a layout end alike on both engines. -/
theorem sameOutcome_applySamples {bindings : List SampleBinding}
    (s : InStep fs paths fonts next bindings.length d r)
    (listed : ∀ b ∈ bindings, base.resolve b.file ∈ paths) :
    SameOutcome (fun _ _ => True) (applySamples fs base bindings d)
      (applySamples fs base bindings r) := by
  induction bindings generalizing next d r with
  | nil => exact .ok [] s.synth trivial
  | cons b later ih =>
    obtain ⟨first_listed, later_listed⟩ := List.forall_mem_cons.1 listed
    have first := b.sameOutcome_apply s first_listed
    rw [applySamples, applySamples]
    rcases applied : b.apply fs base d with ⟨answer, d₁⟩
    rcases applied' : b.apply fs base r with ⟨answer', r₁⟩
    rw [applied, applied'] at first
    cases first with
    | error cause same => exact .error cause same
    | ok sample same s₁ =>
      have rest := ih s₁ later_listed
      simp only
      rcases applied : applySamples fs base later d₁ with ⟨answer, d₂⟩
      rcases applied' : applySamples fs base later r₁ with ⟨answer', r₂⟩
      rw [applied, applied'] at rest
      cases rest with
      | error cause same => exact .error cause same
      | ok samples same _ => exact .ok (sample :: samples) same trivial

/-- SoundFonts that are intact are loaded by both. -/
theorem applyFonts_inStep {names : List String} (s : InStep fs paths fonts next left d r)
    (listed : ∀ font ∈ names.map base.resolve, font ∈ fonts) :
    ∃ d' r', applyFonts fs base names d = (.ok (), d') ∧ applyFonts fs base names r = (.ok (), r') ∧
      InStep fs paths fonts next left d' r' := by
  have font (r : Rig Engine) (path : FilePath) (hp : path ∈ names.map base.resolve)
      (poised : r.Poised fs paths fonts next left) := poised.loadSoundFont (listed path hp)
  obtain ⟨d', applied, poised, synth_eq⟩ := applyFonts_ok_of font s.left_poised
  obtain ⟨r', applied', poised', synth_eq'⟩ := applyFonts_ok_of font s.right_poised
  exact ⟨d', r', applied, applied', poised, poised', by rw [synth_eq, synth_eq', s.synth]⟩

/-- A layout that is applied to a fresh synthesizer on a mock engine ends as it does on a RAM engine
with room for its samples, if these are fit for the engine and the SoundFonts are intact: with the
same samples or the same error, and with two synthesizers that answer alike. -/
theorem apply_fresh_answers_eq_freshRam (fs : Files) (base : FilePath) (l : Layout)
    (policy : OverlapPolicy) (name : String) (maxSamples : Nat) (sampleRate : UInt32)
    (room : l.samples.length ≤ maxSamples)
    (fit : ∀ b ∈ l.samples, Engine.Fit fs sampleRate (base.resolve b.file))
    (intact : ∀ font ∈ l.soundFonts, checkSoundFont fs (base.resolve font) = .ok ()) :
    let dry := l.apply fs base (.fresh name policy)
    let real := l.apply fs base (.freshRam maxSamples sampleRate policy)
    dry.1 = real.1 ∧ dry.2.synth.samples = real.2.synth.samples ∧
      dry.2.synth.bindings = real.2.synth.bindings ∧
      dry.2.synth.loadedFonts = real.2.synth.loadedFonts ∧
      ∀ p key, dry.2.synth.resolve p key = real.2.synth.resolve p key := by
  have started : InStep fs (l.samples.map fun b => base.resolve b.file)
      (l.soundFonts.map base.resolve) 0 l.samples.length (.fresh name policy)
      (.freshRam maxSamples sampleRate policy) :=
    { left_poised := poised_fresh ..
      right_poised :=
        poised_freshRam room (List.forall_mem_map.2 fit) (List.forall_mem_map.2 intact) policy
      synth := rfl }
  obtain ⟨d, r, fonts, fonts', inStep⟩ := applyFonts_inStep started fun _ h => h
  have ends := sameOutcome_applySamples inStep fun b hb => List.mem_map_of_mem hb
  intro dry real
  rw [show dry = applySamples fs base l.samples d by simp only [dry, apply, fonts],
    show real = applySamples fs base l.samples r by simp only [real, apply, fonts']]
  rw [ends.answer_eq, ends.synth_eq]
  exact ⟨rfl, rfl, rfl, rfl, fun _ _ => rfl⟩

/-- A SoundFont, and a sample that is to play on two intervals with a key in common. -/
def crowded : Layout :=
  ⟨["b.sf2"], [⟨"a.wav", 60, ⟨0, 0⟩, 10, 20⟩, ⟨"a.wav", 62, ⟨0, 0⟩, 20, 30⟩]⟩

open Engine (soundFiles) in
/-- Where overlaps are refused, a dry run stops at the second sample, and so does the other. -/
theorem apply_crowded :
    (∀ b ∈ crowded.samples, Engine.Fit soundFiles 44100 (FilePath.resolve ⟨[]⟩ b.file)) ∧
    (∀ font ∈ crowded.soundFonts,
      checkSoundFont soundFiles (FilePath.resolve ⟨[]⟩ font) = .ok ()) ∧
    let dry := crowded.apply soundFiles ⟨[]⟩ (.fresh "mock" .reject)
    let real := crowded.apply soundFiles ⟨[]⟩ (.freshRam 2 44100 .reject)
    dry.1 = .error (.bind ⟨1⟩ ⟨0, 0⟩ 20 30 (.overlap ⟨0⟩ 10 20)) ∧ real.1 = dry.1 ∧
      dry.2.synth.samples = real.2.synth.samples := by
  have fit : ∀ b ∈ crowded.samples, Engine.Fit soundFiles 44100 (FilePath.resolve ⟨[]⟩ b.file) := by
    have decoded : decodeFile soundFiles (FilePath.resolve ⟨[]⟩ "a.wav") = .ok ⟨1, 44100, [7]⟩ := by
      decide +kernel
    have one : Engine.Fit soundFiles 44100 (FilePath.resolve ⟨[]⟩ "a.wav") :=
      ⟨_, decoded, rfl, rfl, by decide⟩
    exact List.forall_mem_cons.2 ⟨one, List.forall_mem_singleton.2 one⟩
  have intact : ∀ font ∈ crowded.soundFonts,
      checkSoundFont soundFiles (FilePath.resolve ⟨[]⟩ font) = .ok () := by
    refine List.forall_mem_singleton.2 ?_
    decide +kernel
  have agrees := apply_fresh_answers_eq_freshRam soundFiles ⟨[]⟩ crowded .reject "mock" 2 44100
    (Nat.le_refl 2) fit intact
  refine ⟨fit, intact, ?_, agrees.1.symm, agrees.2.1⟩
  rfl

end Layout

end SampleBank
