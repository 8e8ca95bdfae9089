import SampleBank.Proofs.Engine.History

/-!
# Engines keep their own invariants

`healthy_of_serves` says what holds of an engine however it is called. Part of that is about the
RAM engine alone: every zone plays a sample that is there on keys that ascend, and no program is
kept without zones (`Ram.Tidy`). Three calls take zones away, each in another place, and each has
to look after both. The rest compares an engine with its log: the one synth that may be left, the
handles that were given out, the numbers of SoundFonts (`Ram.Books`, `Mock.Books`). Each is kept by
every step that a call can make, and therefore along a log.
-/

namespace SampleBank

/-! ### The RAM engine by itself -/

/-- What a sweep leaves of a program, if anything, is part of what was there. -/
theorem Ram.of_zonesWithout?_eq_some {h : SampleHandle} {zones left : List Zone}
    (swept : zonesWithout? h zones = some left) :
    left ≠ [] ∧ ∀ z ∈ left, z ∈ zones ∧ z.sample ≠ h := by
  rw [zonesWithout?] at swept
  split at swept
  · cases swept
  · rename_i some_left
    obtain rfl := Option.some.inj swept
    refine ⟨fun none => some_left (List.isEmpty_iff.2 none), fun z hz => ?_⟩
    obtain ⟨mem, ne⟩ := List.mem_filter.1 hz
    exact ⟨mem, of_decide_eq_true ne⟩

/-- Every program that is kept has zones, which play samples that are there on ascending keys. -/
def RamSynth.Tidy (s : RamSynth) (slots : SortedMap SampleHandle RamSample) : Prop :=
  ∀ p zones, s.zones.find? p = some zones →
    zones ≠ [] ∧ ∀ z ∈ zones, slots.contains z.sample = true ∧ z.lokey ≤ z.hikey

namespace RamSynth.Tidy

variable {s : RamSynth} {slots : SortedMap SampleHandle RamSample} {p : Program}

/-- Zones stay sound when there is one more sample. -/
theorem insert (tidy : s.Tidy slots) (h : SampleHandle) (sample : RamSample) :
    s.Tidy (slots.insert h sample) := by
  intro p zones there
  obtain ⟨some_zone, sound⟩ := tidy p zones there
  refine ⟨some_zone, fun z hz => ⟨?_, (sound z hz).2⟩⟩
  exact SortedMap.contains_insert_iff.2 (.inr (sound z hz).1)

/-- A zone of a live sample on ascending keys can be added to any program. -/
theorem attach {z : Zone} (tidy : s.Tidy slots) (p : Program)
    (live : slots.contains z.sample = true) (ascending : z.lokey ≤ z.hikey) :
    (s.attach p z).Tidy slots := by
  intro q zones there
  rw [RamSynth.attach, SortedMap.find?_insert_eq_ite] at there
  split at there
  · obtain rfl := Option.some.inj there
    refine ⟨List.append_ne_nil_of_right_ne_nil _ (List.cons_ne_nil z []), fun y hy => ?_⟩
    rcases List.mem_append.1 hy with before | new
    · cases here : s.zones.find? p with
      | none =>
        rw [here] at before
        cases before
      | some own =>
        rw [here] at before
        exact (tidy p own here).2 y before
    · rw [List.mem_singleton.1 new]
      exact ⟨live, ascending⟩
  · exact tidy q zones there

/-- What is left of a program when a sample is detached is in order, or the program is forgotten. -/
theorem detach {zones : List Zone} (tidy : s.Tidy slots) (there : s.zones.find? p = some zones)
    (h : SampleHandle) : (s.detach p h zones).Tidy slots := by
  intro q kept found
  rw [Engine.find?_detach] at found
  split at found
  · obtain ⟨some_left, part⟩ := Ram.of_zonesWithout?_eq_some found
    exact ⟨some_left, fun z hz => (tidy p zones there).2 z (part z hz).1⟩
  · exact tidy q kept found

/-- When a sample goes, its zones go from all programs. -/
theorem forget (tidy : s.Tidy slots) (h : SampleHandle) : (s.forget h).Tidy (slots.erase h) := by
  intro p left found
  rw [RamSynth.forget, SortedMap.find?_filterMap] at found
  obtain ⟨zones, there, h_left⟩ := Option.bind_eq_some_iff.1 found
  obtain ⟨some_left, part⟩ := Ram.of_zonesWithout?_eq_some h_left
  refine ⟨some_left, fun z hz => ?_⟩
  obtain ⟨live, ascending⟩ := (tidy p zones there).2 z (part z hz).1
  exact ⟨SortedMap.contains_erase_iff.2 ⟨(part z hz).2, live⟩, ascending⟩

end RamSynth.Tidy

namespace Ram

/-- What holds of a RAM engine whatever it is asked. -/
structure Tidy (maxSamples : Nat) (r : Ram) : Prop where
  limit : r.maxSamples = maxSamples
  zones : ∀ s, r.synth = some s → s.Tidy r.slots
  samples : ∀ h sample, r.slots.find? h = some sample →
    h.id < maxSamples ∧ 1 ≤ sample.data.length

variable {maxSamples : Nat} {r r' : Ram} {s : RamSynth} {command : EngineCommand}
  {answer : Outcome}

/-- A new engine has no samples and no synth, so that nothing can be wrong with them. -/
theorem tidy_new (maxSamples : Nat) (sampleRate : UInt32) :
    (new maxSamples sampleRate).Tidy maxSamples :=
  ⟨rfl, nofun, nofun⟩

/-- Whatever is done to the synth of an engine in order, the engine stays so if the zones do. -/
theorem Tidy.withSynth (tidy : r.Tidy maxSamples) (h_synth : s.Tidy r.slots) :
    (r.withSynth s).Tidy maxSamples where
  limit := tidy.limit
  zones _ eq := Option.some.inj eq ▸ h_synth
  samples := tidy.samples

/-- Every step keeps the engine in order. -/
theorem Step.tidy (step : r.Step command answer r') (tidy : r.Tidy maxSamples) :
    r'.Tidy maxSamples := by
  cases step with
  | create no_synth =>
    refine ⟨tidy.limit, fun s eq => ?_, tidy.samples⟩
    obtain rfl := Option.some.inj eq
    exact nofun
  | destroy synth => exact ⟨tidy.limit, nofun, tidy.samples⟩
  | @load h path rootKey data free some_data =>
    refine ⟨tidy.limit, fun s eq => (tidy.zones s eq).insert h _, fun k sample found => ?_⟩
    rw [SortedMap.find?_insert_eq_ite] at found
    split at found
    · rename_i eq
      obtain rfl := Option.some.inj found
      rw [eq, ← tidy.limit]
      exact ⟨(not_mem_of_freeSlot? free).2, List.length_pos_iff.2 some_data⟩
    · exact tidy.samples k sample found
  | @delete h live =>
    refine ⟨tidy.limit, fun s eq => ?_, fun k sample found => ?_⟩
    · obtain ⟨before, own, rfl⟩ := Option.map_eq_some_iff.1 eq
      exact (tidy.zones before own).forget h
    · rw [without, SortedMap.find?_erase_eq_ite] at found
      split at found
      · cases found
      · exact tidy.samples k sample found
  | bind live ascending synth => exact tidy.withSynth ((tidy.zones _ synth).attach _ live ascending)
  | unbind synth there swept => exact tidy.withSynth ((tidy.zones _ synth).detach there _)
  | @loadSoundFont s path synth =>
    have same : (s.addFont (s.fonts.length + 1) path).Tidy r.slots := tidy.zones s synth
    exact tidy.withSynth same
  | refuse | ignoreSynth | ignoreSample => exact tidy

end Ram

/-! ### Handles that count up -/

/-- Numbers that were given out in ascending order, and the one that comes next. -/
structure Counted (given : List Nat) (next : Nat) : Prop where
  ascending : given.Pairwise (· < ·)
  lt : ∀ i ∈ given, i < next

/-- The next number can be given out. -/
theorem Counted.concat {given : List Nat} {next : Nat} (c : Counted given next) :
    Counted (given ++ [next]) (next + 1) where
  ascending := by
    refine List.pairwise_append.2 ⟨c.ascending, List.pairwise_singleton .., fun i hi j hj => ?_⟩
    rw [List.mem_singleton.1 hj]
    exact c.lt i hi
  lt i hi := by
    rcases List.mem_append.1 hi with before | last
    · exact Nat.lt_succ_of_lt (c.lt i before)
    · rw [List.mem_singleton.1 last]
      exact Nat.lt_succ_self next

/-! ### The RAM engine and its log -/

namespace Ram

/-- A RAM engine has the synth and the SoundFonts that its log says. -/
structure Books (log : CallLog) (r : Ram) : Prop where
  synths : log.synthsLeft = (r.synth.map (·.handle)).toList
  created : Counted (log.synthsCreated.map (·.id)) r.nextSynth
  lt : ∀ s, r.synth = some s → s.handle.id < r.nextSynth
  fonts : ∀ s, r.synth = some s → s.fonts = log.fontsLoaded s.handle
  numbered : ∀ native,
    (log.fontsLoaded native).map (·.1) = List.range' 1 (log.fontsLoaded native).length
  /-- A synth that is still to come has no SoundFonts. -/
  unused : ∀ native, r.nextSynth ≤ native.id → log.fontsLoaded native = []

variable {maxSamples : Nat} {r r' : Ram} {s : RamSynth} {command : EngineCommand}
  {answer : Outcome} {log : CallLog}

/-- An engine that was not called has an empty log. -/
theorem books_new (maxSamples : Nat) (sampleRate : UInt32) :
    (new maxSamples sampleRate).Books [] :=
  ⟨rfl, ⟨.nil, nofun⟩, nofun, nofun, fun _ => rfl, fun _ _ => rfl⟩

/-- A call that leaves synth and SoundFonts alone. -/
theorem Books.keep (b : r.Books log)
    (same : r'.synth.map (fun s => (s.handle, s.fonts)) =
      r.synth.map fun s => (s.handle, s.fonts))
    (next : r'.nextSynth = r.nextSynth) (no_synth : CallLog.synthOf? (command, answer) = none)
    (left : CallLog.synthsAfter log.synthsLeft (command, answer) = log.synthsLeft)
    (no_font : ∀ number, answer ≠ .font number) : r'.Books (log ++ [(command, answer)]) := by
  have fonts (native : SynthHandle) :
      CallLog.fontsLoaded native (log ++ [(command, answer)]) = log.fontsLoaded native :=
    CallLog.fontsLoaded_of_not_font no_font native
  have before (s' : RamSynth) (eq : r'.synth = some s') :
      ∃ s, r.synth = some s ∧ s.handle = s'.handle ∧ s.fonts = s'.fonts := by
    rw [eq, Option.map_some] at same
    obtain ⟨s, own, pair⟩ := Option.map_eq_some_iff.1 same.symm
    exact ⟨s, own, Prod.mk.inj pair⟩
  refine ⟨?_, ?_, fun s' eq => ?_, fun s' eq => ?_, fun native => ?_, fun native above => ?_⟩
  · rw [CallLog.synthsLeft_concat, left, b.synths]
    have handles := congrArg (Option.map Prod.fst) same
    rw [Option.map_map, Option.map_map] at handles
    exact congrArg Option.toList handles.symm
  · rw [CallLog.synthsCreated_of_none no_synth, next]
    exact b.created
  · obtain ⟨s, own, same_handle, -⟩ := before s' eq
    rw [next, ← same_handle]
    exact b.lt s own
  · obtain ⟨s, own, same_handle, same_fonts⟩ := before s' eq
    rw [fonts, ← same_handle, ← same_fonts]
    exact b.fonts s own
  · rw [fonts]
    exact b.numbered native
  · rw [fonts]
    exact b.unused native (next ▸ above)

/-- A synth that is created is the one that is left, under a new number. -/
theorem Books.create (b : r.Books log) (no_synth : r.synth = none) :
    Books (log ++ [(.createSynth, .nativeSynth ⟨r.nextSynth⟩)])
      { r with synth := some ⟨⟨r.nextSynth⟩, .empty, none, []⟩, nextSynth := r.nextSynth + 1 } := by
  have fonts (native : SynthHandle) : CallLog.fontsLoaded native
      (log ++ [(.createSynth, .nativeSynth ⟨r.nextSynth⟩)]) = log.fontsLoaded native :=
    CallLog.fontsLoaded_of_not_font (by nofun) native
  refine ⟨?_, ?_, fun s eq => ?_, fun s eq => ?_, fun native => ?_, fun native above => ?_⟩
  · rw [CallLog.synthsLeft_concat, b.synths, no_synth]
    rfl
  · rw [CallLog.synthsCreated_concat, List.map_append]
    exact b.created.concat
  · obtain rfl := Option.some.inj eq
    exact Nat.lt_succ_self _
  · obtain rfl := Option.some.inj eq
    rw [fonts, b.unused _ (Nat.le_refl _)]
  · rw [fonts]
    exact b.numbered native
  · rw [fonts]
    exact b.unused native (Nat.le_of_succ_le above)

/-- A synth that is destroyed is no longer among those that are left. -/
theorem Books.destroy (b : r.Books log) (synth : r.synth = some s) :
    Books (log ++ [(.destroySynth s.handle, .done)]) { r with synth := none } := by
  have fonts (native : SynthHandle) : CallLog.fontsLoaded native
      (log ++ [(.destroySynth s.handle, .done)]) = log.fontsLoaded native :=
    CallLog.fontsLoaded_of_not_font (by nofun) native
  refine ⟨?_, ?_, nofun, nofun, fun native => ?_, fun native above => ?_⟩
  · rw [CallLog.synthsLeft_concat, b.synths, synth]
    simp [CallLog.synthsAfter]
  · rw [CallLog.synthsCreated_of_none rfl]
    exact b.created
  · rw [fonts]
    exact b.numbered native
  · rw [fonts]
    exact b.unused native above

/-- The number of a SoundFont is the next one, whatever loads have failed before. -/
theorem Books.loadSoundFont (b : r.Books log) (synth : r.synth = some s) (path : FilePath) :
    Books (log ++ [(.loadSoundFont s.handle path, .font (s.fonts.length + 1))])
      (r.withSynth (s.addFont (s.fonts.length + 1) path)) := by
  have own := b.fonts s synth
  have fonts (native : SynthHandle) : CallLog.fontsLoaded native
      (log ++ [(.loadSoundFont s.handle path, .font (s.fonts.length + 1))]) =
        log.fontsLoaded native ++
          if s.handle = native then [(s.fonts.length + 1, path)] else [] := by
    rw [CallLog.fontsLoaded_concat, CallLog.fontOf?]
    split
    · rfl
    · rfl
  refine ⟨?_, ?_, fun s' eq => ?_, fun s' eq => ?_, fun native => ?_, fun native above => ?_⟩
  · rw [CallLog.synthsLeft_concat]
    exact b.synths.trans (by rw [synth]; rfl)
  · rw [CallLog.synthsCreated_of_none rfl]
    exact b.created
  · obtain rfl := Option.some.inj eq
    exact b.lt s synth
  · obtain rfl := Option.some.inj eq
    refine .trans ?_ (fonts s.handle).symm
    rw [if_pos rfl, ← own]
    rfl
  · rw [fonts]
    split
    · rename_i eq
      rw [← eq, ← own, List.map_append, List.length_append, own, b.numbered, List.length_singleton,
        List.range'_concat]
      simp [Nat.add_comm]
    · rw [List.append_nil]
      exact b.numbered native
  · rw [fonts, b.unused native above, if_neg]
    · rfl
    · intro eq
      exact Nat.not_le_of_lt (b.lt s synth) (eq ▸ above)

/-- Every step of the RAM engine keeps it in agreement with its log. -/
theorem Step.books (step : r.Step command answer r') (b : r.Books log) :
    r'.Books (log ++ [(command, answer)]) := by
  cases step with
  | create no_synth => exact b.create no_synth
  | destroy synth => exact b.destroy synth
  | loadSoundFont synth => exact b.loadSoundFont synth _
  | load => exact b.keep rfl rfl rfl rfl (by rintro _ ⟨⟩)
  | delete =>
    refine b.keep ?_ rfl rfl rfl (by rintro _ ⟨⟩)
    rw [without, Option.map_map]
    rfl
  | bind _ _ synth | unbind synth => exact b.keep (by rw [synth]; rfl) rfl rfl rfl (by rintro _ ⟨⟩)
  | refuse _ cause not_destroy =>
    exact b.keep rfl rfl rfl (CallLog.synthsAfter_of_refused not_destroy cause) (by rintro _ ⟨⟩)
  | ignoreSample => exact b.keep rfl rfl rfl rfl (by rintro _ ⟨⟩)
  | @ignoreSynth h absent =>
    refine b.keep rfl rfl rfl (List.filter_eq_self.2 fun other left => ?_) (by rintro _ ⟨⟩)
    rw [b.synths, Option.mem_toList, Option.map_eq_some_iff] at left
    obtain ⟨s, synth, rfl⟩ := left
    refine decide_eq_true fun eq => ?_
    rw [synth?_eq_some_iff.2 ⟨synth, eq⟩] at absent
    cases absent

/-- What holds of a RAM engine beside its log. -/
structure Healthy (maxSamples : Nat) (log : CallLog) (r : Ram) : Prop where
  /-- Of all synths that were created at most one is left, and it is the engine's. -/
  length_le_one : log.synthsLeft.length ≤ 1
  synth : (r.synth.map (·.handle)).toList = log.synthsLeft
  zones : ∀ s, r.synth = some s → ∀ p zones, s.zones.find? p = some zones →
    zones ≠ [] ∧ ∀ z ∈ zones, r.slots.contains z.sample = true ∧ z.lokey ≤ z.hikey
  samples : ∀ h sample, r.slots.find? h = some sample →
    h.id < maxSamples ∧ 1 ≤ sample.data.length
  /-- The synth has the SoundFonts that were loaded into it. -/
  fonts : ∀ s, r.synth = some s → s.fonts = log.fontsLoaded s.handle
  /-- SoundFonts are numbered from 1 on, in the order in which they were loaded, in the synth that
  is left and in those that were destroyed. -/
  numbered : ∀ native,
    (log.fontsLoaded native).map (·.1) = List.range' 1 (log.fontsLoaded native).length

/-- Order inside and agreement with the log are all that is claimed of a RAM engine. -/
theorem healthy_of_books (tidy : r.Tidy maxSamples) (b : r.Books log) :
    r.Healthy maxSamples log where
  length_le_one := by
    rw [b.synths]
    exact Option.length_toList_le
  synth := b.synths.symm
  zones := tidy.zones
  samples := tidy.samples
  fonts := b.fonts
  numbered := b.numbered

end Ram

/-! ### The mock engine and its log -/

namespace Mock

/-- What holds of a mock engine beside its log. -/
structure Healthy (log : CallLog) (m : Mock) : Prop where
  zones : ∀ z ∈ m.zones, m.synths.contains z.synth = true ∧ m.samples.contains z.sample = true
  /-- Handles were given out in ascending order, so that none was used again. -/
  synths : log.synthsCreated.Pairwise (·.id < ·.id)
  samples : log.samplesLoaded.Pairwise (·.id < ·.id)

/-- Handles of a mock engine count up, and its zones play live samples on synths that are there. -/
structure Books (log : CallLog) (m : Mock) : Prop where
  zones : ∀ z ∈ m.zones, m.synths.contains z.synth = true ∧ m.samples.contains z.sample = true
  synths : Counted (log.synthsCreated.map (·.id)) m.nextSynth
  samples : Counted (log.samplesLoaded.map (·.id)) m.nextSample

variable {m m' : Mock} {command : EngineCommand} {answer : Outcome} {log : CallLog}

theorem books_new (name : String) : (new name).Books [] := ⟨nofun, ⟨.nil, nofun⟩, ⟨.nil, nofun⟩⟩

/-- A call that gives out no handle. -/
theorem Books.keep (b : m.Books log) (zones : ∀ z ∈ m'.zones,
      m'.synths.contains z.synth = true ∧ m'.samples.contains z.sample = true)
    (next : m'.nextSynth = m.nextSynth ∧ m'.nextSample = m.nextSample)
    (no_synth : CallLog.synthOf? (command, answer) = none)
    (no_sample : CallLog.sampleOf? (command, answer) = none) :
    m'.Books (log ++ [(command, answer)]) where
  zones := zones
  synths := by
    rw [CallLog.synthsCreated_of_none no_synth, next.1]
    exact b.synths
  samples := by
    rw [CallLog.samplesLoaded_of_none no_sample, next.2]
    exact b.samples

/-- Every step of the mock engine keeps it in agreement with its log. -/
theorem Step.books (step : m.Step command answer m') (b : m.Books log) :
    m'.Books (log ++ [(command, answer)]) := by
  cases step with
  | create =>
    refine ⟨fun z hz => ⟨?_, (b.zones z hz).2⟩, ?_, ?_⟩
    · exact SortedMap.contains_insert_iff.2 (.inr (b.zones z hz).1)
    · rw [CallLog.synthsCreated_concat, List.map_append]
      exact b.synths.concat
    · rw [CallLog.samplesLoaded_of_none rfl]
      exact b.samples
  | load =>
    refine ⟨fun z hz => ⟨(b.zones z hz).1, ?_⟩, ?_, ?_⟩
    · exact SortedMap.contains_insert_iff.2 (.inr (b.zones z hz).2)
    · rw [CallLog.synthsCreated_of_none rfl]
      exact b.synths
    · rw [CallLog.samplesLoaded_concat, List.map_append]
      exact b.samples.concat
  | destroy present =>
    refine b.keep (fun z hz => ?_) ⟨rfl, rfl⟩ rfl rfl
    obtain ⟨mem, ne⟩ := List.mem_filter.1 hz
    exact ⟨SortedMap.contains_erase_iff.2 ⟨of_decide_eq_true ne, (b.zones z mem).1⟩,
      (b.zones z mem).2⟩
  | delete live =>
    refine b.keep (fun z hz => ?_) ⟨rfl, rfl⟩ rfl rfl
    obtain ⟨mem, ne⟩ := List.mem_filter.1 hz
    exact ⟨(b.zones z mem).1,
      SortedMap.contains_erase_iff.2 ⟨of_decide_eq_true ne, (b.zones z mem).2⟩⟩
  | bind present live =>
    refine b.keep (fun z hz => ?_) ⟨rfl, rfl⟩ rfl rfl
    rcases List.mem_append.1 hz with before | new
    · exact b.zones z before
    · rw [List.mem_singleton.1 new]
      exact ⟨present, live⟩
  | unbind swept =>
    exact b.keep (fun z hz => b.zones z (List.mem_filter.1 hz).1) ⟨rfl, rfl⟩ rfl rfl
  | loadSoundFont | refuse | ignoreSynth | ignoreSample => exact b.keep b.zones ⟨rfl, rfl⟩ rfl rfl

/-- Agreement with the log is all that is claimed of a mock engine. -/
theorem Books.healthy (b : m.Books log) : m.Healthy log where
  zones := b.zones
  synths := List.pairwise_map.1 b.synths.ascending
  samples := List.pairwise_map.1 b.samples.ascending

end Mock

/-! ### Both engines -/

namespace Engine

variable {maxSamples : Nat} {sampleRate : UInt32} {log : CallLog} {e : Engine}

/-- A RAM engine is in order and agrees with its log, however it is called. -/
theorem Serves.ram_books (served : (ram (.new maxSamples sampleRate)).Serves log e) :
    ∃ r, e = .ram r ∧ r.Tidy maxSamples ∧ r.Books log :=
  ram_induction (P := fun log r => r.Tidy maxSamples ∧ r.Books log)
    ⟨Ram.tidy_new maxSamples sampleRate, Ram.books_new maxSamples sampleRate⟩
    (fun _ _ _ _ _ before step => ⟨step.tidy before.1, step.books before.2⟩) served

/-- Whatever the calls are and in whatever order they come, each engine keeps its own invariants. -/
theorem healthy_of_serves :
    (∀ maxSamples sampleRate log e, (ram (.new maxSamples sampleRate)).Serves log e →
      ∃ r, e = .ram r ∧ r.Healthy maxSamples log) ∧
    ∀ name log e, (mock (.new name)).Serves log e → ∃ m, e = .mock m ∧ m.Healthy log := by
  refine ⟨fun maxSamples sampleRate log e served => ?_, fun name log e served => ?_⟩
  · obtain ⟨r, eq, tidy, books⟩ := served.ram_books
    exact ⟨r, eq, Ram.healthy_of_books tidy books⟩
  · obtain ⟨m, eq, books⟩ := Serves.mock_induction (P := fun log m => m.Books log)
      (Mock.books_new name) (fun _ _ _ _ _ before step => step.books before)
      (fun _ _ _ _ before => ⟨before.zones, before.synths, before.samples⟩) served
    exact ⟨m, eq, books.healthy⟩

/-- A synth with a zone, reversed keys, a file that is no SoundFont between two that are, and then a
sample that goes while it plays; a stale handle and another synth after that. -/
def unruly : List EngineCommand :=
  [.createSynth, .createSynth, .loadSample wavePath 60, .loadSample fontPath 60,
    .bind ⟨0⟩ ⟨0⟩ ⟨0, 0⟩ 10 20, .bind ⟨0⟩ ⟨0⟩ ⟨0, 0⟩ 30 20, .loadSoundFont ⟨0⟩ fontPath,
    .loadSoundFont ⟨0⟩ wavePath, .loadSoundFont ⟨0⟩ fontPath, .deleteSample ⟨0⟩,
    .destroySynth ⟨7⟩, .destroySynth ⟨0⟩, .createSynth, .loadSample wavePath 60,
    .bind ⟨0⟩ ⟨0⟩ ⟨0, 0⟩ 10 20, .bind ⟨1⟩ ⟨0⟩ ⟨0, 0⟩ 10 20]

/-- Calls with handles that were never given out, or are no longer good, change nothing of that. -/
theorem healthy_unruly :
    (let served := serve soundFiles unruly ([], ram (.new 2 44100))
     (∃ r, served.2 = .ram r ∧ r.Healthy 2 served.1) ∧ served.1.synthsLeft = [⟨1⟩] ∧
      served.1.fontsLoaded ⟨0⟩ = [(1, fontPath), (2, fontPath)]) ∧
    let served := serve soundFiles unruly ([], mock (.new "unruly"))
    (∃ m, served.2 = .mock m ∧ m.Healthy served.1) ∧
      served.1.synthsCreated = [⟨0⟩, ⟨1⟩, ⟨2⟩] := by
  have ⟨healthy_ram, healthy_mock⟩ := healthy_of_serves
  refine ⟨⟨healthy_ram 2 44100 _ _ (.serve .start _ _), ?_⟩,
    healthy_mock "unruly" _ _ (.serve .start _ _), ?_⟩
  · decide +kernel
  · decide +kernel

end Engine

end SampleBank
