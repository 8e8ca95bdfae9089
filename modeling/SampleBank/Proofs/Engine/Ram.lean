import SampleBank.Proofs.Engine.Effects

/-!
# The effects of calls on the RAM engine

A RAM engine has at most one synth, so a call either puts another synth in its place under the same
handle (`Ram.withSynth`) or works on the slots. What a call that succeeds has found and what it
leaves is said once (`Ram.of_createSynth_ok` and its companions); the effects follow from that. A
sample goes into the least free slot, which is why its handle is not one of a live sample
(`Ram.not_mem_of_freeSlot?`).
-/

namespace SampleBank

namespace RamSynth

/-- The synth with a zone behind the others of a program, which it selects. -/
def attach (s : RamSynth) (p : Program) (z : Zone) : RamSynth :=
  { s with zones := s.zones.insert p ((s.zones.find? p).getD [] ++ [z]), selected := some p }

/-- The synth without the zones of a sample. -/
def forget (s : RamSynth) (h : SampleHandle) : RamSynth :=
  { s with zones := s.zones.filterMap fun _ zones => Ram.zonesWithout? h zones }

/-- The synth without the zones of a sample in a program, which has `zones`. -/
def detach (s : RamSynth) (p : Program) (h : SampleHandle) (zones : List Zone) : RamSynth :=
  { s with
    zones := match Ram.zonesWithout? h zones with
      | none => s.zones.erase p
      | some left => s.zones.insert p left }

/-- The synth with one more SoundFont. -/
def addFont (s : RamSynth) (number : Nat) (path : FilePath) : RamSynth :=
  { s with fonts := s.fonts ++ [(number, path)] }

end RamSynth

namespace Ram

/-- The engine with another synth in place of its own. -/
def withSynth (r : Ram) (s : RamSynth) : Ram := { r with synth := some s }

/-- The engine without a sample and its zones. -/
def without (r : Ram) (h : SampleHandle) : Ram :=
  { r with slots := r.slots.erase h, synth := r.synth.map (·.forget h) }

end Ram

namespace Ram

variable {r r' : Ram} {native : SynthHandle} {sample h : SampleHandle} {p : Program} {fs : Files}
  {path : FilePath} {lokey hikey rootKey : UInt8}

/-! ### Slots -/

/-- The least gap is not below the start, and no handle of an ascending list. -/
theorem leastGap_spec {l : List SampleHandle} {start : Nat} (asc : l.Pairwise (·.id < ·.id))
    (above : ∀ h ∈ l, start ≤ h.id) :
    start ≤ leastGap start l ∧ ∀ h ∈ l, h.id ≠ leastGap start l := by
  induction l generalizing start with
  | nil => exact ⟨Nat.le_refl _, nofun⟩
  | cons hd tl ih =>
    have ⟨hd_lt, tl_asc⟩ := List.pairwise_cons.1 asc
    rw [leastGap]
    split
    · rename_i heq
      -- the slot at the start is taken, so the gap is further on
      have ⟨le, ne⟩ := @ih (start + 1) tl_asc fun h hmem => heq ▸ hd_lt h hmem
      refine ⟨by omega, fun h hmem => ?_⟩
      rcases List.mem_cons.1 hmem with rfl | hmem
      · omega
      · exact ne h hmem
    -- the list starts above the gap and only ascends from there
    · rename_i hne
      have hd_le := above hd List.mem_cons_self
      refine ⟨Nat.le_refl _, fun h hmem => ?_⟩
      rcases List.mem_cons.1 hmem with rfl | hmem
      · exact hne
      · have := hd_lt h hmem
        omega

/-- What lies below the least gap is in the list. -/
theorem mem_of_lt_leastGap {l : List SampleHandle} {start i : Nat} (le : start ≤ i)
    (lt : i < leastGap start l) : ⟨i⟩ ∈ l := by
  induction l generalizing start with
  | nil => exact absurd lt (Nat.not_lt.2 le)
  | cons hd tl ih =>
    rw [leastGap] at lt
    split at lt
    · rename_i heq
      rcases Nat.eq_or_lt_of_le le with rfl | above
      · exact heq ▸ List.mem_cons_self
      · exact .tail _ (ih above lt)
    · exact absurd lt (Nat.not_lt.2 le)

/-- Where the slots in use are the first ones, the least gap is behind them. -/
theorem leastGap_eq {n : Nat} (taken : ∀ h, h ∈ r.slots.keys ↔ h.id < n) :
    leastGap 0 r.slots.keys = n := by
  have ⟨_, ne⟩ := leastGap_spec (SortedMap.pairwise_keys r.slots) fun _ _ => Nat.zero_le _
  refine Nat.le_antisymm (Nat.le_of_not_lt fun lt => ?_) (Nat.le_of_not_lt fun lt => ?_)
  · exact Nat.lt_irrefl n ((taken ⟨n⟩).1 (mem_of_lt_leastGap (Nat.zero_le _) lt))
  · exact ne ⟨_⟩ ((taken _).2 lt) rfl

/-- Where the slots in use are the first ones, the next one is free. -/
theorem freeSlot?_eq {n : Nat} (taken : ∀ h, h ∈ r.slots.keys ↔ h.id < n)
    (room : n < r.maxSamples) : r.freeSlot? = some ⟨n⟩ := by
  rw [freeSlot?, leastGap_eq taken]
  exact if_pos room

/-- With a sample in the next slot, the slots in use are still the first ones. -/
theorem taken_insert {n : Nat} {slots : SortedMap SampleHandle RamSample}
    (taken : ∀ h, h ∈ slots.keys ↔ h.id < n) (sample : RamSample) (h : SampleHandle) :
    h ∈ (slots.insert ⟨n⟩ sample).keys ↔ h.id < n + 1 := by
  rw [SortedMap.mem_keys_iff, SortedMap.contains_insert_iff, ← SortedMap.mem_keys_iff, taken,
    Nat.lt_succ_iff_lt_or_eq, or_comm]
  exact or_congr_right ⟨fun eq => congrArg _ eq, fun eq => by cases h; exact congrArg _ eq⟩

/-- A free slot holds no sample. -/
theorem not_mem_of_freeSlot? (hf : r.freeSlot? = some h) :
    h ∉ r.slots.keys ∧ h.id < r.maxSamples := by
  rw [freeSlot?] at hf
  split at hf
  · rename_i hlt
    obtain rfl := Option.some.inj hf
    have ⟨_, ne⟩ := leastGap_spec (SortedMap.pairwise_keys r.slots) fun _ _ => Nat.zero_le _
    exact ⟨fun hmem => ne _ hmem rfl, hlt⟩
  · cases hf

/-- What is decoded for a file is not empty, and is recorded with its path and root key. -/
theorem of_decodeSample_ok {decoded : RamSample}
    (hd : r.decodeSample fs path rootKey = .ok decoded) :
    ∃ data, data ≠ [] ∧ decoded = ⟨path, rootKey, data⟩ := by
  rw [decodeSample] at hd
  split at hd
  · cases hd
  · rename_i audio _
    split at hd
    · cases hd
    · split at hd
      · cases hd
      · split at hd
        · cases hd
        · rename_i some_data
          exact ⟨audio.data, fun none => some_data (List.isEmpty_iff.2 none),
            (Except.ok.inj hd).symm⟩

/-! ### Calls that succeed -/

/-- A synth is created only where there is none, and its number is used up. -/
theorem of_createSynth_ok (h : r.createSynth = (.ok native, r')) :
    r.synth = none ∧ native = ⟨r.nextSynth⟩ ∧
      r' = { r with
        synth := some ⟨⟨r.nextSynth⟩, .empty, none, []⟩, nextSynth := r.nextSynth + 1 } := by
  rw [createSynth] at h
  split at h
  · cases (Prod.mk.inj h).1
  · rename_i no_synth
    obtain ⟨hn, rfl⟩ := Prod.mk.inj h
    exact ⟨no_synth, (Except.ok.inj hn).symm, rfl⟩

/-- A sample goes into the free slot, with what was decoded for it. -/
theorem of_loadSample_ok (h_ok : r.loadSample fs path rootKey = (.ok h, r')) :
    ∃ data, data ≠ [] ∧ r.freeSlot? = some h ∧
      r' = { r with slots := r.slots.insert h ⟨path, rootKey, data⟩ } := by
  rw [loadSample] at h_ok
  split at h_ok
  · cases (Prod.mk.inj h_ok).1
  · rename_i free
    split at h_ok
    · cases (Prod.mk.inj h_ok).1
    · rename_i decoded
      obtain ⟨hh, rfl⟩ := Prod.mk.inj h_ok
      obtain ⟨data, some_data, rfl⟩ := of_decodeSample_ok decoded
      obtain rfl := Except.ok.inj hh
      exact ⟨data, some_data, free, rfl⟩

/-- A zone is attached only for a live sample, keys in order and the engine's own synth. -/
theorem of_bind_ok (h : r.bind native sample p lokey hikey = (.ok (), r')) :
    ∃ s, r.slots.contains sample = true ∧ lokey ≤ hikey ∧ r.synth? native = some s ∧
      r' = r.withSynth (s.attach p ⟨sample, lokey, hikey⟩) := by
  rw [bind] at h
  split at h
  · rename_i live
    split at h
    · rename_i ascending
      split at h
      · cases (Prod.mk.inj h).1
      · rename_i s found
        exact ⟨s, live, ascending, found, (Prod.mk.inj h).2.symm⟩
    · cases (Prod.mk.inj h).1
  · cases (Prod.mk.inj h).1

/-- A sample is detached only from a program where it has a zone. -/
theorem of_unbind_ok (h : r.unbind native sample p = (.ok (), r')) :
    ∃ s zones, r.synth? native = some s ∧ s.zones.find? p = some zones ∧
      (∃ z ∈ zones, z.sample = sample) ∧ r' = r.withSynth (s.detach p sample zones) := by
  rw [unbind] at h
  split at h
  · split at h
    · cases (Prod.mk.inj h).1
    · rename_i s found
      split at h
      · cases (Prod.mk.inj h).1
      · rename_i zones there
        extract_lets left swept at h
        split at h
        · cases (Prod.mk.inj h).1
        · rename_i shorter
          obtain ⟨z, hz, gone⟩ := Engine.exists_of_length_filter_ne shorter
          refine ⟨s, zones, found, there, ⟨z, hz, by simpa using gone⟩, ?_⟩
          -- a program without zones is forgotten
          split at h
          · rename_i none_left
            have gone : swept.zones.erase p = s.zones.erase p := SortedMap.erase_insert ..
            rw [← (Prod.mk.inj h).2, gone, RamSynth.detach, zonesWithout?, if_pos none_left]
            rfl
          · rename_i some_left
            rw [← (Prod.mk.inj h).2, RamSynth.detach, zonesWithout?, if_neg some_left]
            rfl
  · cases (Prod.mk.inj h).1

/-- A sample that is there can be attached to keys in order, if the synth is there. -/
theorem bind_eq_ok {s : RamSynth} (live : r.slots.contains sample = true) (ordered : lokey ≤ hikey)
    (found : r.synth? native = some s) (p : Program) :
    r.bind native sample p lokey hikey =
      (.ok (), r.withSynth (s.attach p ⟨sample, lokey, hikey⟩)) := by
  rw [bind, if_pos live, if_pos ordered, found]
  rfl

/-- A sample that is there can be detached from a program where it has a zone. -/
theorem exists_unbind_eq_ok {s : RamSynth} {zones : List Zone}
    (live : r.slots.contains sample = true) (found : r.synth? native = some s)
    (there : s.zones.find? p = some zones) (attached : ∃ z ∈ zones, z.sample = sample) :
    ∃ r', r.unbind native sample p = (.ok (), r') := by
  obtain ⟨z, hz, own⟩ := attached
  have shorter : (zones.filter (·.sample ≠ sample)).length ≠ zones.length := fun same =>
    of_decide_eq_true (List.length_filter_eq_length_iff.1 same z hz) own
  rw [unbind, if_pos live, found]
  simp only [there, if_neg shorter]
  split
  · exact ⟨_, rfl⟩
  · exact ⟨_, rfl⟩

/-- SoundFonts are numbered from one on, each behind the ones before it. -/
theorem of_loadSoundFont_ok {number : Nat}
    (h : r.loadSoundFont fs native path = (.ok number, r')) :
    ∃ s, r.synth? native = some s ∧ number = s.fonts.length + 1 ∧
      r' = r.withSynth (s.addFont number path) := by
  rw [loadSoundFont] at h
  split at h
  · cases (Prod.mk.inj h).1
  · rename_i s found
    split at h
    · cases (Prod.mk.inj h).1
    · obtain ⟨hn, rfl⟩ := Prod.mk.inj h
      obtain rfl := Except.ok.inj hn
      exact ⟨s, found, rfl, rfl⟩

end Ram

namespace Engine

variable {r r' : Ram} {s s' : RamSynth} {native : SynthHandle} {sample h : SampleHandle}
  {p : Program} {fs : Files} {path : FilePath}

/-! ### Creating and destroying synths -/

/-- On this engine a new synth is the only one, without zones and SoundFonts. -/
theorem ram_created (h : r.createSynth = (.ok native, r')) (hs : (ram r).Sound) :
    (ram r).Created native (ram r') := by
  obtain ⟨no_synth, rfl, rfl⟩ := Ram.of_createSynth_ok h
  have no_synths : (ram r).synths = [] := by rw [synths, no_synth]; rfl
  -- nothing had zones before, and the new synth has none
  have zones : (ram r).KeepsZones (ram { r with
      synth := some ⟨⟨r.nextSynth⟩, .empty, none, []⟩, nextSynth := r.nextSynth + 1 }) := by
    intro other p
    refine (Ram.zones_eq rfl other p).trans (.trans ?_ (Ram.zones_eq_nil no_synth other p).symm)
    exact ite_self _
  refine ⟨?_, ?_, ⟨rfl, fun _ => rfl, rfl⟩, zones, fun _ => .of_ram, fun other => ?_, ?_⟩
  · rw [no_synths]
    exact List.not_mem_nil
  · rw [no_synths]
    exact .refl _
  · refine congrArg some ((Ram.fonts_eq rfl other).trans (.trans ?_
      (Ram.fonts_eq_nil no_synth other).symm))
    exact ite_self _
  · refine ⟨fun hz => ?_, fun hz => ?_, hs.sample_lt, fun other ho => ?_⟩
    · rw [zones] at hz
      have gone := hs.zone_synth hz
      rw [no_synths] at gone
      cases gone
    · rw [zones] at hz
      exact hs.zone_sample hz
    · obtain rfl := List.mem_singleton.1 ho
      exact Nat.lt_succ_self _

theorem mem_synths_ram_iff : native ∈ (ram r).synths ↔ ∃ s, r.synth? native = some s := by
  simp [synths, Ram.synth?_eq_some_iff]

/-- Destroying the engine's synth leaves none, and any other handle is ignored. -/
theorem ram_destroyed (r : Ram) (native : SynthHandle) (hs : (ram r).Sound) :
    (ram r).Destroyed native (ram (r.destroySynth native)) := by
  rw [Ram.destroySynth]
  cases hn : r.synth? native with
  | none =>
    have absent : native ∉ (ram r).synths := by
      rw [mem_synths_ram_iff, hn]
      rintro ⟨s, hs⟩
      cases hs
    rw [Option.isSome_none, if_neg Bool.false_ne_true]
    exact .of_not_mem hs absent
  | some s =>
    obtain ⟨hsynth, rfl⟩ := Ram.synth?_eq_some_iff.1 hn
    have only : (ram r).synths = [s.handle] := by rw [synths, hsynth]; rfl
    rw [Option.isSome_some, if_pos rfl]
    have no_zones (other : SynthHandle) (p : Program) :
        (ram { r with synth := none }).zones other p = [] := Ram.zones_eq_nil rfl other p
    refine ⟨fun _ => .of_eq only, fun hmem => ?_, ⟨rfl, fun _ => rfl, rfl⟩, fun other p => ?_,
      fun _ => .of_ram, fun other ho => ?_, ?_⟩
    · rw [only] at hmem
      exact absurd List.mem_cons_self hmem
    · rw [no_zones]
      split
      · rfl
      · rename_i ho
        exact (hs.zones_eq_nil (by rwa [only, List.mem_singleton]) p).symm
    · refine congrArg some ((Ram.fonts_eq_nil rfl other).trans ?_)
      rw [Ram.fonts_eq hsynth, if_neg ho]
    · refine ⟨fun hz => ?_, fun hz => ?_, hs.sample_lt, fun other ho => ?_⟩
      · rw [no_zones] at hz
        cases hz
      · rw [no_zones] at hz
        cases hz
      · cases ho

/-! ### Loading and deleting samples -/

/-- A sample that is loaded is new, and nothing else changes. -/
theorem ram_loaded {rootKey : UInt8}
    (h_ok : r.loadSample fs path rootKey = (.ok h, r')) (hs : (ram r).Sound) :
    (ram r).Loaded h path rootKey (ram r') := by
  obtain ⟨data, -, free, rfl⟩ := Ram.of_loadSample_ok h_ok
  obtain ⟨fresh, lt⟩ := Ram.not_mem_of_freeSlot? free
  have handles := SortedMap.keys_insert_perm (⟨path, rootKey, data⟩ : RamSample)
    (m := r.slots) (k := h) (by rwa [← Bool.not_eq_true, ← SortedMap.mem_keys_iff])
  exact ⟨fresh, handles, ⟨data, fun _ => SortedMap.find?_insert_eq_ite ..⟩, ⟨rfl, rfl⟩,
    fun _ _ => rfl, fun _ => .of_ram, fun _ => rfl,
    hs.of_handles_perm handles (Nat.le_refl _) lt ⟨rfl, rfl⟩ fun _ _ => rfl⟩

/-- Whether a program is forgotten or not, the zones of the sample are gone from it. -/
theorem zonesWithout?_getD (zones : List Zone) :
    (Ram.zonesWithout? h zones).getD [] = zones.filter (·.sample ≠ h) := by
  rw [Ram.zonesWithout?]
  split
  · rename_i none_left
    rw [Option.getD_none, List.isEmpty_iff.1 none_left]
  · rfl

theorem synth?_without (r : Ram) (h : SampleHandle) (native : SynthHandle) :
    (r.without h).synth? native = (r.synth? native).map (·.forget h) :=
  Ram.synth?_map (RamSynth.forget · h) rfl (fun _ => rfl) native

/-- Without a sample every program of every synth is without its zones. -/
theorem zones_without (r : Ram) (h : SampleHandle) (native : SynthHandle) (p : Program) :
    (r.without h).zones native p = (r.zones native p).filter (·.sample ≠ h) := by
  rw [Ram.zones, Ram.zones, synth?_without]
  cases r.synth? native with
  | none => rfl
  | some s =>
    rw [Option.map_some, Option.bind_some, Option.bind_some, RamSynth.forget,
      SortedMap.find?_filterMap]
    cases s.zones.find? p with
    | none => rfl
    | some zones => exact zonesWithout?_getD zones

/-- SoundFonts do not depend on samples. -/
theorem fonts_without (r : Ram) (h : SampleHandle) (native : SynthHandle) :
    (r.without h).fonts native = r.fonts native := by
  rw [Ram.fonts, Ram.fonts, synth?_without, Option.map_map]
  rfl

/-- Deleting a sample takes its zones with it. -/
theorem ram_deleted (r : Ram) (hs : (ram r).Sound) (h : SampleHandle) :
    (ram r).Deleted h (ram (r.deleteSample h)) := by
  rw [Ram.deleteSample]
  split
  · rename_i live
    have handles := SortedMap.keys_erase_perm live
    have synths : (ram r).KeepsSynths (ram (r.without h)) := by
      refine ⟨?_, rfl⟩
      rw [Engine.synths, Engine.synths, Ram.without, Option.map_map]
      rfl
    exact ⟨fun _ => handles, fun absent => absurd (SortedMap.mem_keys_iff.2 live) absent,
      fun _ => SortedMap.find?_erase_eq_ite .., synths, zones_without r h, fun _ => .of_ram,
      fun native => congrArg some (fonts_without r h native),
      hs.of_handles_perm_cons handles rfl synths (zones_without r h)⟩
  · rename_i absent
    exact Deleted.of_not_mem hs fun hmem => absent (SortedMap.mem_keys_iff.1 hmem)

/-! ### Attaching and detaching zones -/

/-- What becomes of the synth does not concern the samples. -/
theorem keepsSamples_withSynth (r : Ram) (s : RamSynth) :
    (ram r).KeepsSamples (ram (r.withSynth s)) := ⟨rfl, fun _ => rfl, rfl⟩

/-- A synth that is rewritten under its handle is still the only one. -/
theorem keepsSynths_withSynth (hr : r.synth = some s)
    (h_handle : s'.handle = s.handle) : (ram r).KeepsSynths (ram (r.withSynth s')) := by
  refine ⟨?_, rfl⟩
  rw [synths, synths, hr, Ram.withSynth, Option.map_some, Option.map_some, h_handle]

/-- A synth that is rewritten with its SoundFonts keeps them. -/
theorem keepsFonts_withSynth (hr : r.synth = some s)
    (h_handle : s'.handle = s.handle) (h_fonts : s'.fonts = s.fonts) :
    (ram r).KeepsFonts (ram (r.withSynth s')) := fun other => by
  rw [fonts?, fonts?, Ram.fonts_eq hr, Ram.fonts_eq (r := r.withSynth s') rfl, h_handle, h_fonts]

/-- When the synth's zones of one program are written anew, only those change. -/
theorem zones_withSynth (left : List Zone)
    (hr : r.synth = some s) (h_handle : s'.handle = s.handle)
    (h_zones : ∀ q, (s'.zones.find? q).getD [] =
      if q = p then left else (s.zones.find? q).getD []) (other : SynthHandle) (q : Program) :
    (ram (r.withSynth s')).zones other q =
      if other = s.handle ∧ q = p then left else (ram r).zones other q := by
  rw [zones, zones, Ram.zones_eq (s := s') rfl, Ram.zones_eq hr, h_handle]
  by_cases ho : other = s.handle
  · rw [if_pos ho, if_pos ho, h_zones]
    simp only [ho, true_and]
  · rw [if_neg ho, if_neg ho, if_neg fun h => ho h.1]

/-- Attaching adds one zone, behind the others of its program. -/
theorem ram_attached {lokey hikey : UInt8} (hs : (ram r).Sound)
    (h : r.bind native sample p lokey hikey = (.ok (), r')) :
    (ram r).Attached native p ⟨sample, lokey, hikey⟩ (ram r') := by
  obtain ⟨s, live, -, found, rfl⟩ := Ram.of_bind_ok h
  obtain ⟨hr, rfl⟩ := Ram.synth?_eq_some_iff.1 found
  have own : (ram r).zones s.handle p = (s.zones.find? p).getD [] :=
    (Ram.zones_eq hr s.handle p).trans (if_pos rfl)
  have synth_mem := mem_synths_ram_iff.2 ⟨s, found⟩
  have sample_mem : sample ∈ (ram r).handles := SortedMap.mem_keys_iff.2 live
  have written (q : Program) :
      ((s.attach p ⟨sample, lokey, hikey⟩).zones.find? q).getD [] =
        if q = p then (ram r).zones s.handle p ++ [⟨sample, lokey, hikey⟩]
        else (s.zones.find? q).getD [] := by
    rw [RamSynth.attach, SortedMap.find?_insert_eq_ite, own]
    exact apply_ite (Option.getD · []) ..
  have h_handle : (s.attach p ⟨sample, lokey, hikey⟩).handle = s.handle := rfl
  have synths := keepsSynths_withSynth hr h_handle
  have samples := keepsSamples_withSynth r (s.attach p ⟨sample, lokey, hikey⟩)
  have zones := zones_withSynth _ hr h_handle written
  exact ⟨synth_mem, sample_mem, samples, synths, zones, fun _ _ => .of_ram,
    keepsFonts_withSynth hr h_handle rfl,
    hs.of_zone_added synth_mem sample_mem samples synths zones⟩

/-- Detaching concerns one program. -/
theorem find?_detach (s : RamSynth) (zones : List Zone) (h : SampleHandle) (q : Program) :
    (s.detach p h zones).zones.find? q =
      if q = p then Ram.zonesWithout? h zones else s.zones.find? q := by
  rw [RamSynth.detach]
  cases Ram.zonesWithout? h zones with
  | none => exact SortedMap.find?_erase_eq_ite ..
  | some left => exact SortedMap.find?_insert_eq_ite ..

/-- A program without zones is forgotten, which looks no different from outside. -/
theorem zones_detach (s : RamSynth) (zones : List Zone) (h : SampleHandle) (q : Program) :
    ((s.detach p h zones).zones.find? q).getD [] =
      if q = p then zones.filter (·.sample ≠ h) else (s.zones.find? q).getD [] := by
  rw [find?_detach, ← zonesWithout?_getD]
  exact apply_ite (Option.getD · []) ..

/-- Detaching takes the zones of the sample from one program and leaves all others. -/
theorem ram_detached (hs : (ram r).Sound)
    (h : r.unbind native sample p = (.ok (), r')) :
    (ram r).Detached native sample p (ram r') := by
  obtain ⟨s, own, found, there, swept, rfl⟩ := Ram.of_unbind_ok h
  obtain ⟨hr, rfl⟩ := Ram.synth?_eq_some_iff.1 found
  have here : (ram r).zones s.handle p = own :=
    (Ram.zones_eq hr s.handle p).trans (by rw [if_pos rfl, there, Option.getD_some])
  subst here
  have h_handle : (s.detach p sample ((ram r).zones s.handle p)).handle = s.handle := rfl
  have synths := keepsSynths_withSynth hr h_handle
  have samples := keepsSamples_withSynth r (s.detach p sample ((ram r).zones s.handle p))
  have zones := zones_withSynth _ hr h_handle (zones_detach s _ sample)
  exact ⟨swept, samples, synths, zones, fun _ => .of_ram, keepsFonts_withSynth hr h_handle rfl,
    hs.of_zones_filtered samples synths zones⟩

/-! ### Adding SoundFonts -/

/-- A SoundFont that is loaded comes behind the others. -/
theorem ram_fontAdded {number : Nat}
    (hs : (ram r).Sound) (h : r.loadSoundFont fs native path = (.ok number, r')) :
    (ram r).FontAdded native path (ram r') := by
  obtain ⟨s, found, -, rfl⟩ := Ram.of_loadSoundFont_ok h
  obtain ⟨hr, rfl⟩ := Ram.synth?_eq_some_iff.1 found
  have h_handle : (s.addFont number path).handle = s.handle := rfl
  have synths := keepsSynths_withSynth hr h_handle
  have samples := keepsSamples_withSynth r (s.addFont number path)
  have zones : (ram r).KeepsZones (ram (r.withSynth (s.addFont number path))) := fun other q =>
    (Ram.zones_eq (s := s.addFont number path) rfl other q).trans (Ram.zones_eq hr other q).symm
  refine ⟨mem_synths_ram_iff.2 ⟨s, found⟩, samples, synths, zones, fun _ => .of_ram,
    fun other => ?_,
    hs.of_zones_subset samples synths fun other q => zones other q ▸ List.Subset.refl _⟩
  rw [fonts?, fonts?, fonts?, Ram.fonts_eq (s := s.addFont number path) rfl, Ram.fonts_eq hr,
    Ram.fonts_eq hr, if_pos rfl, Option.map_some, h_handle]
  by_cases ho : other = s.handle
  · rw [if_pos ho, if_pos ho, RamSynth.addFont, List.map_append]
    rfl
  · rw [if_neg ho, if_neg ho, if_neg ho]

theorem sound_new_ram (maxSamples : Nat) (sampleRate : UInt32) :
    (ram (.new maxSamples sampleRate)).Sound :=
  ⟨nofun, nofun, nofun, nofun⟩

/-! ### Files to load -/

/-- Two files: `a.wav`, a single frame of sound, and `b.sf2`, a SoundFont. -/
def soundFiles : Files :=
  ⟨"/",
    [([[97, 46, 119, 97, 118]], .file
      [82, 73, 70, 70, 38, 0, 0, 0, 87, 65, 86, 69, 102, 109, 116, 32, 16, 0, 0, 0, 1, 0, 1, 0,
        0x44, 0xAC, 0, 0, 0x88, 0x58, 1, 0, 2, 0, 16, 0, 100, 97, 116, 97, 2, 0, 0, 0, 7, 0]),
      ([[98, 46, 115, 102, 50]], .file [82, 73, 70, 70, 4, 0, 0, 0, 115, 102, 98, 107])]⟩

/-- `a.wav`. -/
def wavePath : FilePath := ⟨[97, 46, 119, 97, 118]⟩

/-- `b.sf2`. -/
def fontPath : FilePath := ⟨[98, 46, 115, 102, 50]⟩

end Engine

end SampleBank
