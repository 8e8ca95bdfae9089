import SampleBank.Proofs.Engine.Contents

/-!
# What each call does to an engine

One structure for each kind of call says what a call that succeeds does to the contents of an
engine, and what it leaves as it was: `Engine.Created`, `Engine.Destroyed`, `Engine.Loaded`,
`Engine.Deleted`, `Engine.Attached`, `Engine.Detached` and `Engine.FontAdded`. Both engines meet
them, so what is built on engines does not ask which one is in use. Every effect ends with
`Engine.Sound`, the engine's invariant, which follows from the rest of the effect alone
(`Engine.Sound.of_zones_subset` and its companions).
-/

namespace SampleBank

namespace Engine

/-- A synth was created: its handle is new, and it starts without zones. -/
structure Created (e : Engine) (native : SynthHandle) (e' : Engine) : Prop where
  fresh : native ∉ e.synths
  synths : e'.synths.Perm (native :: e.synths)
  samples : e.KeepsSamples e'
  zones : e.KeepsZones e'
  order : ∀ other, e.KeepsOrder other e'
  fonts : e.KeepsFonts e'
  sound : e'.Sound

/-- A synth was destroyed with its zones and SoundFonts, if there was one with that handle. -/
structure Destroyed (e : Engine) (native : SynthHandle) (e' : Engine) : Prop where
  synths : native ∈ e.synths → e.synths.Perm (native :: e'.synths)
  absent : native ∉ e.synths → e' = e
  samples : e.KeepsSamples e'
  zones : ∀ other p, e'.zones other p = if other = native then [] else e.zones other p
  order : ∀ other, e.KeepsOrder other e'
  fonts : ∀ other, other ≠ native → e'.fonts? other = e.fonts? other
  sound : e'.Sound

/-- A sample was loaded under a new handle. -/
structure Loaded (e : Engine) (h : SampleHandle) (path : FilePath) (rootKey : UInt8)
    (e' : Engine) : Prop where
  fresh : h ∉ e.handles
  handles : e'.handles.Perm (h :: e.handles)
  sample? : ∃ data, ∀ k, e'.sample? k = if k = h then some ⟨path, rootKey, data⟩ else e.sample? k
  synths : e.KeepsSynths e'
  zones : e.KeepsZones e'
  order : ∀ other, e.KeepsOrder other e'
  fonts : e.KeepsFonts e'
  sound : e'.Sound

/-- A sample was deleted with its zones, if there was one with that handle. -/
structure Deleted (e : Engine) (h : SampleHandle) (e' : Engine) : Prop where
  handles : h ∈ e.handles → e.handles.Perm (h :: e'.handles)
  absent : h ∉ e.handles → e' = e
  sample? : ∀ k, e'.sample? k = if k = h then none else e.sample? k
  synths : e.KeepsSynths e'
  zones : ∀ native p, e'.zones native p = (e.zones native p).filter (·.sample ≠ h)
  order : ∀ other, e.KeepsOrder other e'
  fonts : e.KeepsFonts e'
  sound : e'.Sound

/-- A zone was added behind the others of a program. -/
structure Attached (e : Engine) (native : SynthHandle) (p : Program) (z : Zone)
    (e' : Engine) : Prop where
  synth_mem : native ∈ e.synths
  sample_mem : z.sample ∈ e.handles
  samples : e.KeepsSamples e'
  synths : e.KeepsSynths e'
  zones : ∀ other q, e'.zones other q =
    if other = native ∧ q = p then e.zones native p ++ [z] else e.zones other q
  order : ∀ other, other ≠ native → e.KeepsOrder other e'
  fonts : e.KeepsFonts e'
  sound : e'.Sound

/-- The zones of a sample were taken out of a program; there was at least one. -/
structure Detached (e : Engine) (native : SynthHandle) (h : SampleHandle) (p : Program)
    (e' : Engine) : Prop where
  zone_mem : ∃ z ∈ e.zones native p, z.sample = h
  samples : e.KeepsSamples e'
  synths : e.KeepsSynths e'
  zones : ∀ other q, e'.zones other q =
    if other = native ∧ q = p then (e.zones native p).filter (·.sample ≠ h)
    else e.zones other q
  order : ∀ other, e.KeepsOrder other e'
  fonts : e.KeepsFonts e'
  sound : e'.Sound

/-- A SoundFont was added to a synth. -/
structure FontAdded (e : Engine) (native : SynthHandle) (path : FilePath)
    (e' : Engine) : Prop where
  synth_mem : native ∈ e.synths
  samples : e.KeepsSamples e'
  synths : e.KeepsSynths e'
  zones : e.KeepsZones e'
  order : ∀ other, e.KeepsOrder other e'
  fonts : ∀ other, e'.fonts? other =
    if other = native then (e.fonts? native).map (· ++ [path]) else e.fonts? other
  sound : e'.Sound

variable {e e' : Engine} {native : SynthHandle} {sample h : SampleHandle} {p q : Program}

theorem KeepsSamples.refl (e : Engine) : e.KeepsSamples e := ⟨rfl, fun _ => rfl, rfl⟩

theorem KeepsSamples.trans {e'' : Engine} (first : e.KeepsSamples e')
    (second : e'.KeepsSamples e'') : e.KeepsSamples e'' where
  handles := second.handles.trans first.handles
  sample? h := (second.sample? h).trans (first.sample? h)
  sampleBound := second.sampleBound.trans first.sampleBound

theorem KeepsSynths.refl (e : Engine) : e.KeepsSynths e := ⟨rfl, rfl⟩

theorem KeepsSynths.trans {e'' : Engine} (first : e.KeepsSynths e')
    (second : e'.KeepsSynths e'') : e.KeepsSynths e'' where
  synths := second.synths.trans first.synths
  synthBound := second.synthBound.trans first.synthBound

theorem KeepsOrder.of_mock {m m' : Mock}
    (sub : (m'.zonesOfSynth native).Sublist (m.zonesOfSynth native)) :
    (mock m).KeepsOrder native (mock m') := by
  intro _ eq
  cases eq
  exact ⟨m', rfl, sub⟩

theorem KeepsOrder.of_ram {r : Ram} : (ram r).KeepsOrder native e' := nofun

theorem KeepsOrder.refl (native : SynthHandle) (e : Engine) : e.KeepsOrder native e :=
  fun m eq => ⟨m, eq, .refl _⟩

theorem KeepsOrder.trans {e'' : Engine} (first : e.KeepsOrder native e')
    (second : e'.KeepsOrder native e'') : e.KeepsOrder native e'' := by
  intro m eq
  obtain ⟨m', eq', sub⟩ := first m eq
  obtain ⟨m'', eq'', sub'⟩ := second m' eq'
  exact ⟨m'', eq'', sub'.trans sub⟩

/-- A synth that has lost none of its zones either has them in the same order across programs. -/
theorem KeepsOrder.zonesOfSynth_eq {m m' : Mock} (order : (mock m).KeepsOrder native (mock m'))
    (zones : ∀ p, m'.zonesOf native p = m.zonesOf native p) :
    m'.zonesOfSynth native = m.zonesOfSynth native := by
  obtain ⟨_, eq, sub⟩ := order m rfl
  cases eq
  -- a program's share has not become shorter
  have share (p : Program) : (m'.zonesOfSynth native).filter (·.program = p) =
      (m.zonesOfSynth native).filter (·.program = p) := by
    refine (sub.filter _).eq_of_length ?_
    have length := congrArg List.length (zones p)
    simpa [Mock.zonesOf, Mock.zonesOfSynth, List.filter_filter, and_comm] using length
  have perm : (m'.zonesOfSynth native).Perm (m.zonesOfSynth native) := by
    refine List.perm_iff_count.2 fun z => ?_
    have counted (zones : List MockZone) :
        (zones.filter (·.program = z.program)).count z = zones.count z :=
      List.count_filter (decide_eq_true rfl)
    rw [← counted, share, counted]
  exact sub.eq_of_length perm.length_eq

/-! ### The invariant after a call -/

/-- A call that keeps samples and synths and adds no zone keeps the invariant. -/
theorem Sound.of_zones_subset (hs : e.Sound) (samples : e.KeepsSamples e')
    (synths : e.KeepsSynths e') (zones : ∀ native p, e'.zones native p ⊆ e.zones native p) :
    e'.Sound where
  zone_synth hz := synths.synths ▸ hs.zone_synth (zones _ _ hz)
  zone_sample hz := samples.handles ▸ hs.zone_sample (zones _ _ hz)
  sample_lt := by
    rw [samples.handles, samples.sampleBound]
    exact hs.sample_lt
  synth_lt := by
    rw [synths.synths, synths.synthBound]
    exact hs.synth_lt

/-- Taking zones out of one program keeps the invariant. -/
theorem Sound.of_zones_filtered {keep : Zone → Bool} (hs : e.Sound) (samples : e.KeepsSamples e')
    (synths : e.KeepsSynths e') (zones : ∀ other q, e'.zones other q =
      if other = native ∧ q = p then (e.zones native p).filter keep else e.zones other q) :
    e'.Sound := by
  refine hs.of_zones_subset samples synths fun other q => ?_
  rw [zones other q]
  split
  · rename_i ho
    rw [ho.1, ho.2]
    exact List.filter_sublist.subset
  · exact List.Subset.refl _

/-- A zone of a sample and a synth that exist keeps the invariant. -/
theorem Sound.of_zone_added {z : Zone} (hs : e.Sound) (synth_mem : native ∈ e.synths)
    (sample_mem : z.sample ∈ e.handles) (samples : e.KeepsSamples e') (synths : e.KeepsSynths e')
    (zones : ∀ other q, e'.zones other q =
      if other = native ∧ q = p then e.zones native p ++ [z] else e.zones other q) :
    e'.Sound where
  zone_synth {other q y} hy := by
    rw [synths.synths]
    rw [zones other q] at hy
    split at hy
    · rename_i ho
      exact ho.1 ▸ synth_mem
    · exact hs.zone_synth hy
  zone_sample {other q y} hy := by
    rw [samples.handles]
    rw [zones other q] at hy
    split at hy
    · rcases List.mem_append.1 hy with hy | hy
      · exact hs.zone_sample hy
      · rw [List.mem_singleton.1 hy]
        exact sample_mem
    · exact hs.zone_sample hy
  sample_lt := by
    rw [samples.handles, samples.sampleBound]
    exact hs.sample_lt
  synth_lt := by
    rw [synths.synths, synths.synthBound]
    exact hs.synth_lt

/-- A sample that joins the others below the bound keeps the invariant. -/
theorem Sound.of_handles_perm (hs : e.Sound) (handles : e'.handles.Perm (h :: e.handles))
    (le : e.sampleBound ≤ e'.sampleBound) (lt : h.id < e'.sampleBound)
    (synths : e.KeepsSynths e') (zones : e.KeepsZones e') : e'.Sound where
  zone_synth {other p _} hz := by
    rw [zones other p] at hz
    exact synths.synths ▸ hs.zone_synth hz
  zone_sample {other p _} hz := by
    rw [zones other p] at hz
    exact handles.mem_iff.2 (List.mem_cons_of_mem _ (hs.zone_sample hz))
  sample_lt k hk := by
    rcases List.mem_cons.1 (handles.mem_iff.1 hk) with rfl | hk
    · exact lt
    · exact Nat.lt_of_lt_of_le (hs.sample_lt k hk) le
  synth_lt := by
    rw [synths.synths, synths.synthBound]
    exact hs.synth_lt

/-- Without a sample and its zones the invariant holds of what is left. -/
theorem Sound.of_handles_perm_cons (hs : e.Sound) (handles : e.handles.Perm (h :: e'.handles))
    (eq : e'.sampleBound = e.sampleBound) (synths : e.KeepsSynths e')
    (zones : ∀ native p, e'.zones native p = (e.zones native p).filter (·.sample ≠ h)) :
    e'.Sound where
  zone_synth {other p _} hz := by
    rw [zones other p] at hz
    exact synths.synths ▸ hs.zone_synth (List.mem_filter.1 hz).1
  zone_sample {other p z} hz := by
    rw [zones other p, List.mem_filter, decide_eq_true_eq] at hz
    exact (List.mem_cons.1 (handles.mem_iff.1 (hs.zone_sample hz.1))).resolve_left hz.2
  sample_lt k hk := eq ▸ hs.sample_lt k (handles.mem_iff.2 (List.mem_cons_of_mem _ hk))
  synth_lt := by
    rw [synths.synths, synths.synthBound]
    exact hs.synth_lt

/-! ### Calls that find nothing to do -/

/-- If a sweep shortened a list, something in it was swept. -/
theorem exists_of_length_filter_ne {α : Type} {l : List α} {keep : α → Bool}
    (h : (l.filter keep).length ≠ l.length) : ∃ a ∈ l, keep a = false := by
  rw [Ne, List.length_filter_eq_length_iff] at h
  simpa using h

/-- Nothing goes with a synth that does not exist. -/
theorem Destroyed.of_not_mem (hs : e.Sound) (absent : native ∉ e.synths) :
    e.Destroyed native e where
  synths hmem := absurd hmem absent
  absent _ := rfl
  samples := .refl e
  zones other p := by
    split
    · rename_i ho
      rw [ho, hs.zones_eq_nil absent]
    · rfl
  order other := .refl other e
  fonts _ _ := rfl
  sound := hs

/-- Nothing goes with a sample that is not live. -/
theorem Deleted.of_not_mem (hs : e.Sound) (absent : h ∉ e.handles) : e.Deleted h e where
  handles hmem := absurd hmem absent
  absent _ := rfl
  sample? k := by
    split
    · rename_i hk
      rw [hk, sample?_eq_none_iff]
      exact absent
    · rfl
  synths := .refl e
  zones native p := by
    refine (List.filter_eq_self.2 fun z hz => ?_).symm
    exact decide_eq_true fun hzh => absent (hzh ▸ hs.zone_sample hz)
  order other := .refl other e
  fonts _ := rfl
  sound := hs

end Engine

end SampleBank
