import SampleBank.Proofs.Engine.Effects

/-!
# The effects of calls on the mock engine

A mock engine keeps the zones of all synths in one list, which a call extends or sweeps. What a
sweep leaves of a synth's zones in a program depends only on what it does to those
(`Engine.zonesOf_filter`). Handles count up, so a new one is not that of anything live. As for the
RAM engine, what a call that succeeds has found and what it leaves is said once
(`Mock.of_createSynth_ok` and its companions).
-/

namespace SampleBank

namespace Mock

variable {m m' : Mock} {native : SynthHandle} {sample h : SampleHandle} {p : Program}
  {path : FilePath}

/-- A mock engine gives out numbers for synths and never one twice. -/
theorem of_createSynth_ok (h : m.createSynth = (.ok native, m')) :
    native = ⟨m.nextSynth⟩ ∧
      m' = { m with synths := m.synths.insert ⟨m.nextSynth⟩ (), nextSynth := m.nextSynth + 1 } := by
  rw [createSynth] at h
  split at h
  · cases (Prod.mk.inj h).1
  · obtain ⟨hn, rfl⟩ := Prod.mk.inj h
    exact ⟨(Except.ok.inj hn).symm, rfl⟩

/-- A mock engine takes any file for a sample, under the next number. -/
theorem of_loadSample_ok {rootKey : UInt8} (h_ok : m.loadSample path rootKey = (.ok h, m')) :
    h = ⟨m.nextSample⟩ ∧
      m' = { m with
        samples := m.samples.insert ⟨m.nextSample⟩ (path, rootKey)
        nextSample := m.nextSample + 1 } := by
  rw [loadSample] at h_ok
  split at h_ok
  · cases (Prod.mk.inj h_ok).1
  · obtain ⟨hh, rfl⟩ := Prod.mk.inj h_ok
    exact ⟨(Except.ok.inj hh).symm, rfl⟩

/-- A zone comes behind all others, whichever synth they belong to. -/
theorem of_bind_ok {lokey hikey : UInt8}
    (h : m.bind native sample p lokey hikey = (.ok (), m')) :
    m.synths.contains native = true ∧ m.samples.contains sample = true ∧
      m' = { m with zones := m.zones ++ [⟨native, sample, p, lokey, hikey⟩] } := by
  rw [bind] at h
  split at h
  · cases (Prod.mk.inj h).1
  · split at h
    · rename_i exists_synth
      split at h
      · rename_i live
        exact ⟨exists_synth, live, (Prod.mk.inj h).2.symm⟩
      · cases (Prod.mk.inj h).1
    · cases (Prod.mk.inj h).1

/-- Only what is attached can be detached. -/
theorem of_unbind_ok (h : m.unbind native sample p = (.ok (), m')) :
    (∃ z ∈ m.zones, z.synth = native ∧ z.sample = sample ∧ z.program = p) ∧
      m' = { m with
        zones := m.zones.filter fun z =>
          ¬(z.synth = native ∧ z.sample = sample ∧ z.program = p) } := by
  rw [unbind] at h
  split at h
  · cases (Prod.mk.inj h).1
  · extract_lets left swept at h
    split at h
    · cases (Prod.mk.inj h).1
    · rename_i shorter
      obtain ⟨z, hz, gone⟩ := Engine.exists_of_length_filter_ne shorter
      exact ⟨⟨z, hz, by simpa using gone⟩, (Prod.mk.inj h).2.symm⟩

/-- SoundFonts are numbered across all synths. -/
theorem of_loadSoundFont_ok {number : Nat}
    (h : m.loadSoundFont native path = (.ok number, m')) :
    m.synths.contains native = true ∧ number = m.fonts.length + 1 ∧
      m' = { m with fonts := m.fonts ++ [path] } := by
  rw [loadSoundFont] at h
  split at h
  · cases (Prod.mk.inj h).1
  · split at h
    · rename_i exists_synth
      obtain ⟨hn, rfl⟩ := Prod.mk.inj h
      exact ⟨exists_synth, (Except.ok.inj hn).symm, rfl⟩
    · cases (Prod.mk.inj h).1

end Mock

namespace Engine

variable {m m' : Mock} {native : SynthHandle} {sample h : SampleHandle} {p : Program}
  {path : FilePath}

/-- The zones that a sweep keeps, as a synth and a program see them. -/
theorem zonesOf_filter (m : Mock) (keep : MockZone → Bool) (keepZone : Zone → Bool)
    (h_keep : ∀ z, z.synth = native → z.program = p → keep z = keepZone z.zone) :
    ({ m with zones := m.zones.filter keep } : Mock).zonesOf native p =
      (m.zonesOf native p).filter keepZone := by
  rw [Mock.zonesOf, Mock.zonesOf, List.filter_map, List.filter_filter, List.filter_filter]
  congr 1
  refine List.filter_congr fun z _ => ?_
  by_cases hz : z.synth = native ∧ z.program = p
  · simp [hz, h_keep z hz.1 hz.2]
  · simp [hz]

/-- A sweep adds no zones to a synth. -/
theorem keepsOrder_filter (m' : Mock) (keep : MockZone → Bool)
    (h_zones : m'.zones = m.zones.filter keep) (native : SynthHandle) :
    (mock m).KeepsOrder native (mock m') := by
  refine .of_mock ?_
  rw [Mock.zonesOfSynth, Mock.zonesOfSynth, h_zones]
  exact List.filter_sublist.filter _

/-! ### Creating and destroying synths -/

theorem mock_created (h : m.createSynth = (.ok native, m'))
    (hs : (mock m).Sound) : (mock m).Created native (mock m') := by
  obtain ⟨rfl, rfl⟩ := Mock.of_createSynth_ok h
  -- handles of existing synths lie below the next one
  have fresh : (⟨m.nextSynth⟩ : SynthHandle) ∉ m.synths.keys := fun hmem =>
    Nat.lt_irrefl _ (hs.synth_lt _ hmem)
  have synths : (m.synths.insert ⟨m.nextSynth⟩ ()).keys.Perm (⟨m.nextSynth⟩ :: m.synths.keys) :=
    SortedMap.keys_insert_perm () (by
      rw [← Bool.not_eq_true, ← SortedMap.mem_keys_iff]
      exact fresh)
  refine ⟨fresh, synths, ⟨rfl, fun _ => rfl, rfl⟩, fun _ _ => rfl,
    fun _ => .of_mock (.refl _), fun _ => rfl, ?_⟩
  refine ⟨fun hz => ?_, hs.zone_sample, hs.sample_lt, fun other ho => ?_⟩
  · exact synths.mem_iff.2 (List.mem_cons_of_mem _ (hs.zone_synth hz))
  · rcases List.mem_cons.1 (synths.mem_iff.1 ho) with rfl | ho
    · exact Nat.lt_succ_self _
    · exact Nat.lt_succ_of_lt (hs.synth_lt other ho)

/-- The sweep for a synth takes all of its zones. -/
theorem zonesOf_destroyed (m : Mock) (native other : SynthHandle) (p : Program) :
    ({ m with synths := m.synths.erase native
              zones := m.zones.filter (·.synth ≠ native) } : Mock).zonesOf other p =
      if other = native then [] else m.zonesOf other p := by
  split
  · rename_i ho
    refine (zonesOf_filter m _ (fun _ => false) fun z hz _ => ?_).trans ?_
    · exact decide_eq_false (not_not_intro (hz.trans ho))
    · exact List.filter_eq_nil_iff.2 fun _ _ => Bool.false_ne_true
  · rename_i ho
    refine (zonesOf_filter m _ (fun _ => true) fun z hz _ => ?_).trans ?_
    · exact decide_eq_true fun eq => ho (hz.symm.trans eq)
    · exact List.filter_eq_self.2 fun _ _ => rfl

/-- A synth that is destroyed takes its zones with it. -/
theorem mock_destroyed (m : Mock) (native : SynthHandle) (hs : (mock m).Sound) :
    (mock m).Destroyed native (mock (m.destroySynth native)) := by
  rw [Mock.destroySynth]
  split
  · rename_i present
    have synths := SortedMap.keys_erase_perm present
    have zones := zonesOf_destroyed m native
    refine ⟨fun _ => synths, fun hmem => absurd (SortedMap.mem_keys_iff.2 present) hmem,
      ⟨rfl, fun _ => rfl, rfl⟩, zones, keepsOrder_filter _ _ rfl, fun _ _ => rfl, ?_⟩
    refine ⟨fun {other p z} hz => ?_, fun {other p z} hz => ?_, hs.sample_lt, fun other ho => ?_⟩
    · have hz : z ∈ if other = native then [] else m.zonesOf other p := zones other p ▸ hz
      split at hz
      · cases hz
      · rename_i ho
        exact (List.mem_cons.1 (synths.mem_iff.1 (hs.zone_synth hz))).resolve_left ho
    · have hz : z ∈ if other = native then [] else m.zonesOf other p := zones other p ▸ hz
      split at hz
      · cases hz
      · exact hs.zone_sample hz
    · exact hs.synth_lt other (synths.mem_iff.2 (List.mem_cons_of_mem _ ho))
  · rename_i absent
    exact .of_not_mem hs fun hmem => absent (SortedMap.mem_keys_iff.1 hmem)

/-! ### Loading and deleting samples -/

theorem mock_loaded {rootKey : UInt8}
    (h_ok : m.loadSample path rootKey = (.ok h, m')) (hs : (mock m).Sound) :
    (mock m).Loaded h path rootKey (mock m') := by
  obtain ⟨rfl, rfl⟩ := Mock.of_loadSample_ok h_ok
  have fresh : (⟨m.nextSample⟩ : SampleHandle) ∉ m.samples.keys := fun hmem =>
    Nat.lt_irrefl _ (hs.sample_lt _ hmem)
  have handles := SortedMap.keys_insert_perm (path, rootKey)
    (m := m.samples) (k := (⟨m.nextSample⟩ : SampleHandle))
    (by rwa [← Bool.not_eq_true, ← SortedMap.mem_keys_iff])
  refine ⟨fresh, handles, ⟨[], fun k => ?_⟩, ⟨rfl, rfl⟩, fun _ _ => rfl,
    fun _ => .of_mock (.refl _), fun _ => rfl,
    hs.of_handles_perm handles (Nat.le_succ _) (Nat.lt_succ_self _) ⟨rfl, rfl⟩ fun _ _ => rfl⟩
  rw [sample?, SortedMap.find?_insert_eq_ite]
  split
  · rfl
  · rfl

/-- A sample that is deleted takes its zones with it, from every synth. -/
theorem mock_deleted (m : Mock) (hs : (mock m).Sound) (h : SampleHandle) :
    (mock m).Deleted h (mock (m.deleteSample h)) := by
  rw [Mock.deleteSample]
  split
  · rename_i live
    have handles := SortedMap.keys_erase_perm live
    have zones (native : SynthHandle) (p : Program) :
        ({ m with zones := m.zones.filter (·.sample ≠ h) } : Mock).zonesOf native p =
          (m.zonesOf native p).filter (·.sample ≠ h) :=
      zonesOf_filter m _ _ fun _ _ _ => rfl
    refine ⟨fun _ => handles, fun absent => absurd (SortedMap.mem_keys_iff.2 live) absent,
      fun k => ?_, ⟨rfl, rfl⟩, zones, keepsOrder_filter _ _ rfl, fun _ => rfl,
      hs.of_handles_perm_cons handles rfl ⟨rfl, rfl⟩ zones⟩
    rw [sample?, SortedMap.find?_erase_eq_ite]
    split
    · rfl
    · rfl
  · rename_i absent
    exact Deleted.of_not_mem hs fun hmem => absent (SortedMap.mem_keys_iff.1 hmem)

/-! ### Attaching and detaching zones -/

/-- A zone at the end of all zones is at the end of those of its program. -/
theorem mock_attached {lokey hikey : UInt8} (hs : (mock m).Sound)
    (h : m.bind native sample p lokey hikey = (.ok (), m')) :
    (mock m).Attached native p ⟨sample, lokey, hikey⟩ (mock m') := by
  obtain ⟨exists_synth, live, rfl⟩ := Mock.of_bind_ok h
  have synth_mem : native ∈ (mock m).synths := SortedMap.mem_keys_iff.2 exists_synth
  have sample_mem : sample ∈ (mock m).handles := SortedMap.mem_keys_iff.2 live
  have zones (other : SynthHandle) (q : Program) :
      ({ m with zones := m.zones ++ [⟨native, sample, p, lokey, hikey⟩] } : Mock).zonesOf
        other q = if other = native ∧ q = p then
          m.zonesOf native p ++ [⟨sample, lokey, hikey⟩] else m.zonesOf other q := by
    rw [Mock.zonesOf, List.filter_append, List.map_append]
    split
    · rename_i ho
      simp [ho, Mock.zonesOf, MockZone.zone]
    · rename_i ho
      have other_zone : ¬(native = other ∧ p = q) := fun h => ho ⟨h.1.symm, h.2.symm⟩
      simp [other_zone, Mock.zonesOf]
  have order (other : SynthHandle) (ho : other ≠ native) : (mock m).KeepsOrder other
      (mock { m with zones := m.zones ++ [⟨native, sample, p, lokey, hikey⟩] }) := by
    refine .of_mock ?_
    rw [Mock.zonesOfSynth, List.filter_append]
    simp [ho.symm, Mock.zonesOfSynth]
  exact ⟨synth_mem, sample_mem, ⟨rfl, fun _ => rfl, rfl⟩, ⟨rfl, rfl⟩, zones, order,
    fun _ => rfl,
    hs.of_zone_added synth_mem sample_mem ⟨rfl, fun _ => rfl, rfl⟩ ⟨rfl, rfl⟩ zones⟩

/-- The sweep for a sample in a program takes its zones there. -/
theorem zonesOf_detached (m : Mock) (native other : SynthHandle) (sample : SampleHandle)
    (p q : Program) :
    ({ m with zones := m.zones.filter fun z =>
        ¬(z.synth = native ∧ z.sample = sample ∧ z.program = p) } : Mock).zonesOf other q =
      if other = native ∧ q = p then (m.zonesOf native p).filter (·.sample ≠ sample)
      else m.zonesOf other q := by
  split
  · rename_i ho
    obtain ⟨rfl, rfl⟩ := ho
    refine zonesOf_filter m _ _ fun z h_synth h_program => ?_
    by_cases hz : z.sample = sample
    · simp [h_synth, h_program, hz, MockZone.zone]
    · simp [hz, MockZone.zone]
  -- the sweep takes nothing from another synth or program
  · rename_i ho
    refine (zonesOf_filter m _ (fun _ => true) fun z h_synth h_program => ?_).trans ?_
    · exact decide_eq_true fun h => ho ⟨h_synth.symm.trans h.1, h_program.symm.trans h.2.2⟩
    · exact List.filter_eq_self.2 fun _ _ => rfl

/-- The zones that stay keep their order. -/
theorem mock_detached (hs : (mock m).Sound)
    (h : m.unbind native sample p = (.ok (), m')) :
    (mock m).Detached native sample p (mock m') := by
  obtain ⟨⟨z, hz, h_synth, h_sample, h_program⟩, rfl⟩ := Mock.of_unbind_ok h
  have zone_mem : z.zone ∈ m.zonesOf native p :=
    List.mem_map_of_mem (List.mem_filter.2 ⟨hz, by simp [h_synth, h_program]⟩)
  have zones (other : SynthHandle) (q : Program) := zonesOf_detached m native other sample p q
  exact ⟨⟨z.zone, zone_mem, h_sample⟩, ⟨rfl, fun _ => rfl, rfl⟩, ⟨rfl, rfl⟩, zones,
    keepsOrder_filter _ _ rfl, fun _ => rfl,
    hs.of_zones_filtered ⟨rfl, fun _ => rfl, rfl⟩ ⟨rfl, rfl⟩ zones⟩

/-! ### Adding SoundFonts -/

theorem mock_fontAdded {number : Nat} (hs : (mock m).Sound)
    (h : m.loadSoundFont native path = (.ok number, m')) :
    (mock m).FontAdded native path (mock m') := by
  obtain ⟨exists_synth, -, rfl⟩ := Mock.of_loadSoundFont_ok h
  have samples : (mock m).KeepsSamples (mock { m with fonts := m.fonts ++ [path] }) :=
    ⟨rfl, fun _ => rfl, rfl⟩
  have synths : (mock m).KeepsSynths (mock { m with fonts := m.fonts ++ [path] }) := ⟨rfl, rfl⟩
  exact ⟨SortedMap.mem_keys_iff.2 exists_synth, samples, synths, fun _ _ => rfl,
    fun _ => .of_mock (.refl _), fun _ => (ite_self _).symm,
    hs.of_zones_subset samples synths fun _ _ => List.Subset.refl _⟩

theorem sound_new_mock (name : String) : (mock (.new name)).Sound := ⟨nofun, nofun, nofun, nofun⟩

end Engine

end SampleBank
