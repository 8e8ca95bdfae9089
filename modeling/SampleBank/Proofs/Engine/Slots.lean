import Mathlib.Data.List.Nodup
import SampleBank.Proofs.Engine.Deletion

/-!
# How a RAM engine allots its slots

A RAM engine looks for a free slot before it reads the file, and then puts the sample into the
lowest one. Slots are freed in any order, so those in use may leave holes anywhere below the limit;
still there is a free one exactly when fewer samples are live than there are slots
(`Ram.isSome_freeSlot?_iff`).

Whatever stands against a load is listed in `Ram.loadFaults`, in the order in which the engine
notices it. If there is anything the first of it is the answer, and nothing has changed
(`Ram.loadSample_of_fault`). Otherwise the sample is loaded (`Ram.loadSample_of_fit`), and deleting
it again gives back the engine as it was. `Ram.Allots` says all this of one engine, and
`Engine.allots_of_serves` that it holds however the engine was called before.
-/

namespace SampleBank

/-- Whether a RAM engine at a sample rate can load a file: it is mono, has that rate and is not
empty. -/
def Engine.Fit (fs : Files) (rate : UInt32) (path : FilePath) : Prop :=
  ∃ audio, decodeFile fs path = .ok audio ∧ audio.channels = 1 ∧ audio.sampleRate = rate ∧
    audio.data ≠ []

open Engine (Fit)

namespace Ram

/-- The numbers of the slots in use. -/
def used (r : Ram) : List Nat := r.slots.keys.map (·.id)

/-- What stands against audio as a sample of the engine. -/
def audioFaults (r : Ram) (audio : DecodedAudio) : List EngineError :=
  (if audio.channels = 1 then [] else [.notMono audio.channels]) ++
    (if audio.sampleRate = r.sampleRate then []
      else [.sampleRate r.sampleRate audio.sampleRate]) ++
      if audio.data = [] then [.emptySample] else []

/-- What stands against a file as a sample of the engine. -/
def fileFaults (r : Ram) (fs : Files) (path : FilePath) : List EngineError :=
  match decodeFile fs path with
  | .error cause => [.decode cause]
  | .ok audio => r.audioFaults audio

/-- What stands against loading a file, in the order in which it is noticed. -/
def loadFaults (r : Ram) (fs : Files) (path : FilePath) : List EngineError :=
  (if r.liveSamples < r.maxSamples then [] else [.noFreeSlot r.maxSamples]) ++
    r.fileFaults fs path

/-- How a RAM engine allots its slots. -/
structure Allots (r : Ram) : Prop where
  /-- There is a slot left, and the file is fit for the engine. -/
  loads : ∀ fs path rootKey, (∃ h r', r.loadSample fs path rootKey = (.ok h, r')) ↔
    r.liveSamples < r.maxSamples ∧ Fit fs r.sampleRate path
  /-- The handle is the lowest one whose slot is free. -/
  lowest : ∀ fs path rootKey h r', r.loadSample fs path rootKey = (.ok h, r') →
    h.id < r.maxSamples ∧ r.slots.find? h = none ∧ ∀ i < h.id, r.slots.contains ⟨i⟩ = true
  /-- That slot is filled, and nothing else changes. -/
  filled : ∀ fs path rootKey h r', r.loadSample fs path rootKey = (.ok h, r') →
    ∃ audio, decodeFile fs path = .ok audio ∧
      r'.slots.find? h = some ⟨path, rootKey, audio.data⟩ ∧
        (∀ k, k ≠ h → r'.slots.find? k = r.slots.find? k) ∧ r' = { r with slots := r'.slots }
  /-- A load that is refused changes nothing and answers with the first fault. -/
  refused : ∀ fs path rootKey e r', r.loadSample fs path rootKey = (.error e, r') →
    r' = r ∧ (r.loadFaults fs path).head? = some e
  /-- A load is undone by deleting the sample. -/
  undone : ∀ fs path rootKey h r', r.loadSample fs path rootKey = (.ok h, r') →
    r'.deleteSample h = r

variable {r : Ram} {limit : Nat} {fs : Files} {path : FilePath} {rootKey : UInt8}

/-! ### Counting slots -/

theorem length_used (r : Ram) : r.used.length = r.liveSamples := by
  rw [used, List.length_map, SortedMap.length_keys, liveSamples]

theorem nodup_used (r : Ram) : r.used.Nodup :=
  List.pairwise_map.2 (r.slots.pairwise_keys.imp fun lt eq => Nat.ne_of_lt lt eq)

theorem lt_of_mem_used (tidy : r.Tidy limit) {i : Nat} (hi : i ∈ r.used) : i < limit := by
  obtain ⟨h, live, rfl⟩ := List.mem_map.1 hi
  obtain ⟨sample, found⟩ := SortedMap.contains_iff.1 (SortedMap.mem_keys_iff.1 live)
  exact (tidy.samples h sample found).1

theorem leastGap_not_mem_used (r : Ram) : leastGap 0 r.slots.keys ∉ r.used := by
  have ⟨_, ne⟩ := leastGap_spec (SortedMap.pairwise_keys r.slots) fun _ _ => Nat.zero_le _
  intro taken
  obtain ⟨h, live, eq⟩ := List.mem_map.1 taken
  exact ne h live eq

theorem mem_used_of_lt_leastGap {i : Nat} (lt : i < leastGap 0 r.slots.keys) : i ∈ r.used :=
  List.mem_map_of_mem (mem_of_lt_leastGap (Nat.zero_le _) lt)

/-- The slots in use are numbers below the limit that do not repeat, so there are as many as the
limit only if none is left out. -/
theorem leastGap_lt_iff (tidy : r.Tidy limit) :
    leastGap 0 r.slots.keys < limit ↔ r.liveSamples < limit := by
  rw [← r.length_used]
  constructor
  -- with the gap there is one number more below the limit
  · intro room
    have more : (leastGap 0 r.slots.keys :: r.used).Nodup :=
      List.nodup_cons.2 ⟨r.leastGap_not_mem_used, r.nodup_used⟩
    have within : leastGap 0 r.slots.keys :: r.used ⊆ List.range limit := by
      intro i hi
      rcases List.mem_cons.1 hi with rfl | hi
      · exact List.mem_range.2 room
      · exact List.mem_range.2 (lt_of_mem_used tidy hi)
    have := more.length_le_of_subset within
    rw [List.length_cons, List.length_range] at this
    exact this
  -- without a gap below the limit all numbers there are taken
  · intro room
    by_contra full
    have all : List.range limit ⊆ r.used := by
      intro i hi
      have := List.mem_range.1 hi
      exact mem_used_of_lt_leastGap (by omega)
    have := List.nodup_range.length_le_of_subset all
    rw [List.length_range] at this
    omega

theorem isSome_freeSlot?_iff (tidy : r.Tidy r.maxSamples) :
    r.freeSlot?.isSome = true ↔ r.liveSamples < r.maxSamples := by
  rw [← leastGap_lt_iff tidy]
  simp only [freeSlot?]
  split <;> simp_all

/-! ### Faults -/

theorem audioFaults_eq_nil_iff {audio : DecodedAudio} :
    r.audioFaults audio = [] ↔
      audio.channels = 1 ∧ audio.sampleRate = r.sampleRate ∧ audio.data ≠ [] := by
  simp [audioFaults]

theorem fileFaults_eq_nil_iff : r.fileFaults fs path = [] ↔ Fit fs r.sampleRate path := by
  rw [fileFaults, Fit]
  cases decodeFile fs path with
  | error cause => simp
  | ok audio => simp [audioFaults_eq_nil_iff]

theorem loadFaults_eq_nil_iff :
    r.loadFaults fs path = [] ↔ r.liveSamples < r.maxSamples ∧ Fit fs r.sampleRate path := by
  simp [loadFaults, fileFaults_eq_nil_iff]

/-- The checks of the audio come in the order of its faults. -/
theorem decodeSample_of_fault {e : EngineError} (first : (r.fileFaults fs path).head? = some e) :
    r.decodeSample fs path rootKey = .error e := by
  rw [fileFaults] at first
  rw [decodeSample]
  cases decoded : decodeFile fs path with
  | error cause => simpa [decoded] using first
  | ok audio =>
    simp only [decoded, audioFaults] at first ⊢
    by_cases mono : audio.channels = 1
    · by_cases rate : audio.sampleRate = r.sampleRate
      · by_cases none : audio.data = []
        · simpa [mono, rate, none] using first
        · simp [mono, rate, none] at first
      · simpa [mono, rate] using first
    · simpa [mono] using first

theorem decodeSample_of_fit (fit : Fit fs r.sampleRate path) (rootKey : UInt8) :
    ∃ audio, decodeFile fs path = .ok audio ∧
      r.decodeSample fs path rootKey = .ok ⟨path, rootKey, audio.data⟩ := by
  obtain ⟨audio, decoded, mono, rate, some_data⟩ := fit
  refine ⟨audio, decoded, ?_⟩
  simp [decodeSample, decoded, mono, rate, some_data]

/-! ### Loading -/

/-- The first fault is what a load answers with, and nothing is changed by it. -/
theorem loadSample_of_fault (tidy : r.Tidy r.maxSamples) {e : EngineError}
    (first : (r.loadFaults fs path).head? = some e) :
    r.loadSample fs path rootKey = (.error e, r) := by
  rw [loadFaults] at first
  rw [loadSample]
  cases free : r.freeSlot? with
  | none =>
    have full : ¬r.liveSamples < r.maxSamples := by
      rw [← isSome_freeSlot?_iff tidy, free]
      simp
    simpa [full] using first
  | some h =>
    have room : r.liveSamples < r.maxSamples := by
      rw [← isSome_freeSlot?_iff tidy, free]
      rfl
    rw [if_pos room, List.nil_append] at first
    simp [decodeSample_of_fault first]

/-- A file that is fit goes into the slot that is free. -/
theorem loadSample_of_fit (tidy : r.Tidy r.maxSamples) (room : r.liveSamples < r.maxSamples)
    (fit : Fit fs r.sampleRate path) (rootKey : UInt8) :
    ∃ h audio, r.freeSlot? = some h ∧ decodeFile fs path = .ok audio ∧
      r.loadSample fs path rootKey =
        (.ok h, { r with slots := r.slots.insert h ⟨path, rootKey, audio.data⟩ }) := by
  obtain ⟨h, free⟩ := Option.isSome_iff_exists.1 ((isSome_freeSlot?_iff tidy).2 room)
  obtain ⟨audio, decoded, sample⟩ := decodeSample_of_fit fit rootKey
  refine ⟨h, audio, free, decoded, ?_⟩
  rw [loadSample, free, sample]

/-- A load that succeeds had no fault, so what it did is known. -/
theorem faultless_of_loadSample_ok (tidy : r.Tidy r.maxSamples) {h : SampleHandle} {r' : Ram}
    (loaded : r.loadSample fs path rootKey = (.ok h, r')) :
    r.loadFaults fs path = [] ∧ r.freeSlot? = some h ∧
      ∃ audio, decodeFile fs path = .ok audio ∧
        r' = { r with slots := r.slots.insert h ⟨path, rootKey, audio.data⟩ } := by
  cases faults : r.loadFaults fs path with
  | cons e later =>
    have refused : r.loadSample fs path rootKey = (.error e, r) :=
      loadSample_of_fault tidy (by rw [faults]; rfl)
    rw [refused] at loaded
    cases (Prod.mk.inj loaded).1
  | nil =>
    obtain ⟨room, fit⟩ := loadFaults_eq_nil_iff.1 faults
    obtain ⟨slot, audio, free, decoded, done⟩ := loadSample_of_fit tidy room fit rootKey
    rw [done] at loaded
    obtain ⟨answer, rfl⟩ := Prod.mk.inj loaded
    obtain rfl := Except.ok.inj answer
    exact ⟨rfl, free, audio, decoded, rfl⟩

/-- A load that is refused had a fault, and it answers with the first. -/
theorem first_fault_of_loadSample_error (tidy : r.Tidy r.maxSamples) {e : EngineError} {r' : Ram}
    (refused : r.loadSample fs path rootKey = (.error e, r')) :
    r' = r ∧ (r.loadFaults fs path).head? = some e := by
  cases faults : r.loadFaults fs path with
  | nil =>
    obtain ⟨room, fit⟩ := loadFaults_eq_nil_iff.1 faults
    obtain ⟨h, audio, -, -, done⟩ := loadSample_of_fit tidy room fit rootKey
    rw [done] at refused
    cases (Prod.mk.inj refused).1
  | cons first later =>
    have answered : r.loadSample fs path rootKey = (.error first, r) :=
      loadSample_of_fault tidy (by rw [faults]; rfl)
    rw [answered] at refused
    obtain ⟨answer, rfl⟩ := Prod.mk.inj refused
    exact ⟨rfl, congrArg some (Except.error.inj answer)⟩

/-- The lowest free slot is free, and every slot below it is in use. -/
theorem lowest_of_freeSlot? {h : SampleHandle} (free : r.freeSlot? = some h) :
    h.id < r.maxSamples ∧ r.slots.contains h = false ∧
      ∀ i < h.id, r.slots.contains ⟨i⟩ = true := by
  obtain ⟨absent, below⟩ := not_mem_of_freeSlot? free
  refine ⟨below, ?_, ?_⟩
  · rwa [SortedMap.mem_keys_iff, Bool.not_eq_true] at absent
  · intro i lt
    have gap : leastGap 0 r.slots.keys = h.id := by
      simp only [freeSlot?] at free
      split at free
      · exact congrArg SampleHandle.id (Option.some.inj free)
      · cases free
    exact SortedMap.mem_keys_iff.1 (mem_of_lt_leastGap (Nat.zero_le _) (gap ▸ lt))

/-- All that can be said of an engine's loads follows from what is free and what is refused. -/
theorem allots (tidy : r.Tidy r.maxSamples) : r.Allots where
  loads fs path rootKey := by
    constructor
    · rintro ⟨h, r', loaded⟩
      exact loadFaults_eq_nil_iff.1 (faultless_of_loadSample_ok tidy loaded).1
    · rintro ⟨room, fit⟩
      obtain ⟨h, audio, -, -, done⟩ := loadSample_of_fit tidy room fit rootKey
      exact ⟨h, _, done⟩
  lowest fs path rootKey h r' loaded := by
    obtain ⟨-, free, -⟩ := faultless_of_loadSample_ok tidy loaded
    obtain ⟨below, absent, taken⟩ := lowest_of_freeSlot? free
    exact ⟨below, Option.isNone_iff_eq_none.1 (Option.isSome_eq_false_iff.1 absent), taken⟩
  filled fs path rootKey h r' loaded := by
    obtain ⟨-, -, audio, decoded, rfl⟩ := faultless_of_loadSample_ok tidy loaded
    refine ⟨audio, decoded, ?_, ?_, rfl⟩
    · rw [SortedMap.find?_insert_self]
    · intro k ne
      rw [SortedMap.find?_insert_eq_ite, if_neg ne]
  refused fs path rootKey e r' refused :=
    first_fault_of_loadSample_error tidy refused
  undone fs path rootKey h r' loaded := by
    obtain ⟨-, free, audio, -, rfl⟩ := faultless_of_loadSample_ok tidy loaded
    have live : (r.slots.insert h ⟨path, rootKey, audio.data⟩).contains h = true :=
      SortedMap.contains_insert_iff.2 (.inl rfl)
    rw [deleteSample, if_pos live]
    exact Engine.without_insert tidy (lowest_of_freeSlot? free).2.1 _

end Ram

namespace Engine

/-- Whatever an engine has been asked before, it loads a file if and only if fewer samples are live
than there are slots and the file is fit for it: into the lowest free slot, leaving everything else
alone, and so that deleting the sample gives the engine back. Otherwise it is left as it was, and
the first fault is the answer. -/
theorem allots_of_serves {maxSamples : Nat} {sampleRate : UInt32} {log : CallLog}
    {r : Ram} (served : (ram (.new maxSamples sampleRate)).Serves log (.ram r)) :
    r.Allots := by
  obtain ⟨r', eq, tidy, -⟩ := served.ram_books
  obtain rfl := Engine.ram.inj eq
  exact Ram.allots (tidy.limit ▸ tidy)

/-- Three samples, of which the first and the last go again while the second plays. -/
def holes : List EngineCommand :=
  [.createSynth, .loadSample wavePath 60, .loadSample wavePath 61, .loadSample wavePath 62,
    .bind ⟨0⟩ ⟨1⟩ ⟨0, 0⟩ 10 20, .deleteSample ⟨0⟩, .deleteSample ⟨2⟩]

/-- The engine that is left: only the second of three slots is in use. -/
def punched : Ram where
  maxSamples := 3
  sampleRate := 44100
  synth := some ⟨⟨0⟩, SortedMap.empty.insert ⟨0, 0⟩ [⟨⟨1⟩, 10, 20⟩], some ⟨0, 0⟩, []⟩
  nextSynth := 1
  slots := SortedMap.empty.insert ⟨1⟩ ⟨wavePath, 61, [7]⟩

/-- The next sample goes before the one that is left, and a SoundFont goes nowhere. -/
theorem allots_punched :
    (serve soundFiles holes ([], ram (.new 3 44100))).2 = ram punched ∧ punched.Allots ∧
      (punched.loadSample soundFiles wavePath 63).1 = .ok ⟨0⟩ ∧
      (punched.loadSample soundFiles fontPath 63).2 = punched := by
  have left : (serve soundFiles holes ([], ram (.new 3 44100))).2 = ram punched := by
    decide +kernel
  have served : (ram (.new 3 44100)).Serves _ _ := Serves.start.serve soundFiles holes
  rw [left] at served
  refine ⟨left, allots_of_serves served, ?_⟩
  decide +kernel

end Engine

end SampleBank
