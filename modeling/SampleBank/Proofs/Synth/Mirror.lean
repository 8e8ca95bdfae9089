import SampleBank.Proofs.Synth.Atomicity

/-!
# Synthesizers and their mirror image in the engine

A synthesizer keeps a key map and a list of SoundFonts, and so does the engine's synth that it plays
on. `Synth.Mirrored` says that the two agree: every program has the same ranges in the same order on
both sides, and so have the SoundFonts. Phase and handle agree, and outside of its open phase a
synthesizer holds nothing.

Engines are shared, so a synthesizer stands `Rig.Beside` others who hold `rest` and play on
`others`, and every operation keeps that up and spares them (`Rig.Moves`). The delicate one is the
releasing of a sample. The engine may refuse to detach it and is not asked again; the key map
forgets the sample anyway. The two still agree in the end because deleting the sample sweeps the
zones that a refusal has left, and nothing but zones of that sample went before (`Engine.Sheds`).
-/

namespace SampleBank

open scoped List

namespace Synth

/-- A synthesizer and its engine agree. -/
structure Mirrored (s : Synth) (e : Engine) : Prop where
  handle : s.HandleAgrees
  /-- Only samples of the store are bound. -/
  loaded : ∀ p, ∀ range ∈ s.router.ranges p, range.sample ∈ s.store.handles
  zones : ∀ native, s.PlaysOn native →
    ∀ p, e.zones native p = (s.router.ranges p).map (·.zone)
  fonts : ∀ native fonts, s.PlaysOn native → e.fonts? native = some fonts → s.soundFonts = fonts
  /-- A synthesizer that is not open holds nothing. -/
  idle : s.handle? = none →
    s.store.handles = [] ∧ (∀ p, s.router.ranges p = []) ∧ s.soundFonts = []

variable {s : Synth} {native : SynthHandle}

/-- The zones of a synthesizer play samples of its own store. -/
theorem Mirrored.sample_mem {e : Engine} (m : s.Mirrored e) (active : s.PlaysOn native)
    (p : Program) : ∀ z ∈ e.zones native p, z.sample ∈ s.store.handles := by
  intro z hz
  rw [m.zones native active, List.mem_map] at hz
  obtain ⟨range, hr, rfl⟩ := hz
  exact m.loaded p range hr

/-- A synthesizer that agrees with its engine plays on a synth or has none. -/
theorem Mirrored.active_or_idle {e : Engine} (m : s.Mirrored e) :
    (∃ native, s.PlaysOn native) ∨ s.handle? = none :=
  m.handle.plays_or_idle.imp_right And.left

end Synth

/-! ### Detaching at the engine -/

namespace Engine

/-- Zones went from one synth; those of samples to `keep` are all still there. -/
structure Sheds (native : SynthHandle) (keep : SampleHandle → Bool) (e e' : Engine) : Prop where
  samples : e.KeepsSamples e'
  synths : e.KeepsSynths e'
  fonts : e.KeepsFonts e'
  zones : ∀ other, other ≠ native → ∀ p, e'.zones other p = e.zones other p
  order : ∀ other, e.KeepsOrder other e'
  kept : ∀ p, (e'.zones native p).filter (keep ·.sample) =
    (e.zones native p).filter (keep ·.sample)
  sound : e'.Sound

variable {e e' e'' : Engine} {native : SynthHandle} {keep : SampleHandle → Bool}
  {h : SampleHandle} {p : Program}

/-- An engine that does nothing sheds nothing. -/
theorem Sheds.refl (hs : e.Sound) (native : SynthHandle) (keep : SampleHandle → Bool) :
    e.Sheds native keep e :=
  ⟨.refl e, .refl e, fun _ => rfl, fun _ _ _ => rfl, fun other => .refl other e, fun _ => rfl, hs⟩

/-- What is kept by two calls is kept by both together. -/
theorem Sheds.trans (first : e.Sheds native keep e') (second : e'.Sheds native keep e'') :
    e.Sheds native keep e'' where
  samples := first.samples.trans second.samples
  synths := first.synths.trans second.synths
  fonts other := (second.fonts other).trans (first.fonts other)
  zones other ne p := (second.zones other ne p).trans (first.zones other ne p)
  order other := (first.order other).trans (second.order other)
  kept p := (second.kept p).trans (first.kept p)
  sound := second.sound

/-- Detaching a sample sheds zones of that sample, if the engine agrees to it at all. -/
theorem sheds_unbind (hs : e.Sound) (native : SynthHandle) (p : Program)
    (not_kept : keep h = false) : e.Sheds native keep (e.unbind native h p).2 := by
  rcases asked : e.unbind native h p with ⟨answer, e'⟩
  cases answer with
  | error cause =>
    rw [eq_of_unbind_error asked]
    exact .refl hs native keep
  | ok _ =>
    have d := detached_of_unbind hs asked
    refine ⟨d.samples, d.synths, d.fonts, ?_, d.order, ?_, d.sound⟩
    · intro other ne q
      rw [d.zones, if_neg fun eq => ne eq.1]
    · intro q
      rw [d.zones]
      by_cases hq : q = p
      · rw [if_pos ⟨rfl, hq⟩, hq, List.filter_filter]
        refine List.filter_congr fun z _ => ?_
        by_cases hz : z.sample = h
        · rw [hz, not_kept, Bool.false_and]
        · rw [decide_eq_true hz, Bool.and_true]
      · rw [if_neg fun eq => hq eq.2]

/-- Detaching sheds zones of the samples that are to be detached, however often the engine
refuses. -/
theorem sheds_detach (hs : e.Sound) (native : SynthHandle)
    (attached : List (SampleHandle × Program)) (not_kept : ∀ a ∈ attached, keep a.1 = false) :
    e.Sheds native keep (Rig.detach native attached e) := by
  induction attached generalizing e with
  | nil => exact .refl hs native keep
  | cons a rest ih =>
    obtain ⟨h, p⟩ := a
    -- every call sheds at most zones of its sample, whether or not the engine agrees
    have first : e.Sheds native keep (e.unbind native h p).2 :=
      sheds_unbind hs native p (not_kept (h, p) List.mem_cons_self)
    have later := ih first.sound fun b hb => not_kept b (List.mem_cons_of_mem _ hb)
    exact first.trans later

/-- Zones that go from one synth do not concern the others. -/
theorem Sheds.spares (d : e.Sheds native keep e') (rest : List SampleHandle)
    {others : List SynthHandle} (other : native ∉ others) : e.Spares rest others e' where
  sample? h _ := d.samples.sample? h
  zones native' hn _ := d.zones native' (ne_of_mem_of_not_mem hn other)
  order native' _ := d.order native'
  fonts native' _ := d.fonts native'

end Engine

namespace Rig

/-- A synthesizer, and an engine of which others hold `rest` and play on `others`. -/
structure Beside (rest : List SampleHandle) (others : List SynthHandle) (r : Rig Engine) :
    Prop where
  store : r.synth.store.Beside rest r.engine
  synths : r.synth.handle?.toList ++ others ~ r.engine.synths
  mirrored : r.synth.Mirrored r.engine

/-- What an operation of a synthesizer does to it, its engine and the others. It may take away the
samples `released`, and no others. -/
structure Moves (rest : List SampleHandle) (others : List SynthHandle)
    (released : List SampleHandle) (r r' : Rig Engine) : Prop where
  beside : r'.Beside rest others
  spares : r.engine.Spares rest others r'.engine
  keeps : ∀ h ∈ r.synth.store.handles, h ∉ released →
    h ∈ r'.synth.store.handles ∧ r'.engine.sample? h = r.engine.sample? h

variable {rest released : List SampleHandle} {others : List SynthHandle} {r r' r'' : Rig Engine}
  {native : SynthHandle} {h : SampleHandle} {p : Program} {fs : Files} {path : FilePath}
  {lokey hikey rootKey : UInt8}

namespace Moves

/-- An operation that does nothing keeps everything up. -/
theorem refl (b : r.Beside rest others) (released : List SampleHandle) :
    Moves rest others released r r :=
  ⟨b, .refl rest others r.engine, fun _ held _ => ⟨held, rfl⟩⟩

/-- What is released of what was not there before is no loss. -/
theorem trans_of_fresh (first : Moves rest others [] r r')
    (second : Moves rest others released r' r'')
    (fresh : ∀ h ∈ released, h ∉ r.synth.store.handles) : Moves rest others [] r r'' where
  beside := second.beside
  spares := first.spares.trans second.spares
  keeps h held _ := by
    have ⟨held', same⟩ := first.keeps h held List.not_mem_nil
    have ⟨held'', same'⟩ := second.keeps h held' fun hr => fresh h hr held
    exact ⟨held'', same'.trans same⟩

/-- Operations that take nothing away can follow one another. -/
theorem trans (first : Moves rest others [] r r') (second : Moves rest others [] r' r'') :
    Moves rest others [] r r'' :=
  first.trans_of_fresh second nofun

/-- A sample of the store that is not released is recorded there as before. -/
theorem lookup {sample : Sample} (moves : Moves rest others released r r')
    (b : r.Beside rest others) (found : r.synth.store.lookup h = some sample)
    (kept : h ∉ released) : r'.synth.store.lookup h = some sample := by
  have ⟨held, same⟩ := moves.keeps h (Store.mem_handles_iff_lookup.2 ⟨sample, found⟩) kept
  obtain ⟨sample', found'⟩ := Store.mem_handles_iff_lookup.1 held
  obtain ⟨handle, data, live⟩ := b.store.recorded h sample found
  obtain ⟨handle', data', live'⟩ := moves.beside.store.recorded h sample' found'
  -- both records agree with the engine, which has the sample as it was
  rw [same, live] at live'
  obtain ⟨filename, rootKey, -⟩ := RamSample.mk.inj (Option.some.inj live')
  rw [found', show sample' = ⟨sample'.handle, sample'.filename, sample'.rootKey⟩ from rfl, handle',
    ← filename, ← rootKey, ← handle]

end Moves

namespace Beside

/-- The synth that a synthesizer plays on is there. -/
theorem synth_mem (b : r.Beside rest others) (active : r.synth.PlaysOn native) :
    native ∈ r.engine.synths := by
  have own : native ∈ r.synth.handle?.toList ++ others := by
    rw [active.handle?]
    exact List.mem_cons_self
  exact b.synths.mem_iff.1 own

/-- Nobody else plays on the synthesizer's synth. -/
theorem not_mem_others (b : r.Beside rest others) (active : r.synth.PlaysOn native) :
    native ∉ others := by
  have once := b.synths.nodup_iff.2 (Engine.nodup_synths r.engine)
  rw [active.handle?] at once
  exact (List.nodup_cons.1 once).1

end Beside

/-! ### One operation at a time -/

/-- Starting adds a synth for oneself and takes nothing from anyone. -/
theorem moves_start (b : r.Beside rest others) : Moves rest others [] r r.start.2 := by
  rcases opened : r.start with ⟨answer, r'⟩
  cases answer with
  | error cause =>
    rw [eq_of_start_error opened]
    exact .refl b []
  | ok _ =>
    obtain ⟨new, native, e', agreed, rfl⟩ := of_start_ok opened
    have c := Engine.created_of_createSynth b.store.sound agreed
    have unopened := b.mirrored.handle.handle?_eq_none (by rw [new]; nofun)
    have ⟨_, no_ranges, no_fonts⟩ := b.mirrored.idle unopened
    have store := b.store.of_keepsSamples c.samples c.sound
    have synths : native :: others ~ e'.synths := by
      have others_only := b.synths
      rw [unopened] at others_only
      exact (others_only.cons native).trans c.synths.symm
    refine ⟨⟨store, synths, ?_⟩, c.spares rest others, fun h held _ => ⟨held, c.samples.sample? h⟩⟩
    refine ⟨⟨fun _ => rfl, fun _ => rfl⟩, b.mirrored.loaded, ?_, ?_, nofun⟩
    -- the engine's new synth is as empty as the synthesizer that was never opened
    · intro other h_active q
      obtain rfl := Option.some.inj h_active.handle?
      rw [c.zones, b.store.sound.zones_eq_nil c.fresh, no_ranges, List.map_nil]
    · intro other fonts h_active hf
      obtain rfl := Option.some.inj h_active.handle?
      rw [c.fonts] at hf
      rw [Engine.eq_nil_of_fonts?_eq_some c.fresh hf]
      exact no_fonts

/-- A sample that is loaded is new to everyone. -/
theorem moves_loadSample (b : r.Beside rest others) (fs : Files) (path : FilePath)
    (rootKey : UInt8) : Moves rest others [] r (r.loadSample fs path rootKey).2 := by
  rcases loaded : r.loadSample fs path rootKey with ⟨answer, r'⟩
  cases answer with
  | error cause =>
    rw [eq_of_loadSample_error loaded]
    exact .refl b []
  | ok sample =>
    obtain ⟨native, e', active, agreed, recorded, rfl⟩ := of_loadSample_ok loaded
    have l := Engine.loaded_of_loadSample b.store.sound agreed
    have store := Store.moves_of_loaded b.store others l
    rw [← recorded] at store
    refine ⟨⟨store.beside, l.synths.synths ▸ b.synths, ?_⟩, store.spares, store.keeps⟩
    refine ⟨b.mirrored.handle, ?_, ?_, ?_, fun idle => absurd idle active.not_idle⟩
    · intro q range hr
      exact (store.keeps _ (b.mirrored.loaded q range hr) List.not_mem_nil).1
    · intro other h_active q
      exact (l.zones other q).trans (b.mirrored.zones other h_active q)
    · intro other fonts h_active hf
      exact b.mirrored.fonts other fonts h_active ((l.fonts other).symm.trans hf)

/-- Binding adds the same range at the end of both sides. -/
theorem moves_bind (b : r.Beside rest others) (p : Program) (lokey hikey : UInt8)
    (h : SampleHandle) : Moves rest others [] r (r.bind p lokey hikey h).2 := by
  rcases bound : r.bind p lokey hikey h with ⟨answer, r'⟩
  cases answer with
  | error cause =>
    rw [eq_of_bind_error bound]
    exact .refl b []
  | ok range =>
    obtain ⟨native, e', active, zone, held, -, agreed, rfl⟩ := of_bind_ok bound
    have a := Engine.attached_of_bind b.store.sound agreed
    rw [← zone] at a
    have store := b.store.of_keepsSamples a.samples a.sound
    have sample_eq : range.sample = h := congrArg Zone.sample zone
    -- the key map puts the range behind the others, as the engine does with the zone
    refine ⟨⟨store, a.synths.synths ▸ b.synths, ?_⟩, a.spares rest (b.not_mem_others active),
      fun k held _ => ⟨held, a.samples.sample? k⟩⟩
    refine ⟨b.mirrored.handle, ?_, ?_, ?_, fun idle => absurd idle active.not_idle⟩
    · intro q range' hr
      rw [Router.ranges_insert] at hr
      split at hr
      · rcases List.mem_append.1 hr with hr | hr
        · exact b.mirrored.loaded p range' hr
        · rw [List.mem_singleton.1 hr, sample_eq]
          exact held
      · exact b.mirrored.loaded q range' hr
    · intro other h_active q
      obtain rfl := active.eq h_active
      rw [a.zones, Router.ranges_insert]
      by_cases hq : q = p
      · rw [if_pos ⟨rfl, hq⟩, if_pos hq, List.map_append, b.mirrored.zones native active]
        rfl
      · rw [if_neg fun eq => hq eq.2, if_neg hq, b.mirrored.zones native active]
    · intro other fonts h_active hf
      exact b.mirrored.fonts other fonts h_active ((a.fonts other).symm.trans hf)

/-- What is left of a program's zones are the zones of what is left of its ranges. -/
theorem map_zone_filter (ranges : List KeyRange) (keep : SampleHandle → Bool) :
    (ranges.map (·.zone)).filter (keep ·.sample) =
      (ranges.filter (keep ·.sample)).map (·.zone) := by
  rw [List.filter_map]
  rfl

/-- Unbinding takes the same ranges from both sides. -/
theorem moves_unbind (b : r.Beside rest others) (p : Program) (h : SampleHandle) :
    Moves rest others [] r (r.unbind p h).2 := by
  rcases unbound : r.unbind p h with ⟨answer, r'⟩
  cases answer with
  | error cause =>
    rw [eq_of_unbind_error unbound]
    exact .refl b []
  | ok _ =>
    obtain ⟨native, e', active, -, agreed, rfl⟩ := of_unbind_ok unbound
    have d := Engine.detached_of_unbind b.store.sound agreed
    have store := b.store.of_keepsSamples d.samples d.sound
    -- both sides take the sample out of this one program
    refine ⟨⟨store, d.synths.synths ▸ b.synths, ?_⟩, d.spares rest (b.not_mem_others active),
      fun k held _ => ⟨held, d.samples.sample? k⟩⟩
    refine ⟨b.mirrored.handle, ?_, ?_, ?_, fun idle => absurd idle active.not_idle⟩
    · intro q range hr
      rw [Router.ranges_remove] at hr
      split at hr
      · exact b.mirrored.loaded p range (List.mem_filter.1 hr).1
      · exact b.mirrored.loaded q range hr
    · intro other h_active q
      obtain rfl := active.eq h_active
      rw [d.zones, Router.ranges_remove]
      by_cases hq : q = p
      · rw [if_pos ⟨rfl, hq⟩, if_pos hq, b.mirrored.zones native active]
        exact map_zone_filter _ (· ≠ h)
      · rw [if_neg fun eq => hq eq.2, if_neg hq, b.mirrored.zones native active]
    · intro other fonts h_active hf
      exact b.mirrored.fonts other fonts h_active ((d.fonts other).symm.trans hf)

/-- Loading a SoundFont adds it at the end of both sides. -/
theorem moves_loadSoundFont (b : r.Beside rest others) (fs : Files) (path : FilePath) :
    Moves rest others [] r (r.loadSoundFont fs path).2 := by
  rcases loaded : r.loadSoundFont fs path with ⟨answer, r'⟩
  cases answer with
  | error cause =>
    rw [eq_of_loadSoundFont_error loaded]
    exact .refl b []
  | ok number =>
    obtain ⟨native, e', active, agreed, rfl⟩ := of_loadSoundFont_ok loaded
    have f := Engine.fontAdded_of_loadSoundFont b.store.sound agreed
    have store := b.store.of_keepsSamples f.samples f.sound
    refine ⟨⟨store, f.synths.synths ▸ b.synths, ?_⟩, f.spares rest (b.not_mem_others active),
      fun k held _ => ⟨held, f.samples.sample? k⟩⟩
    refine ⟨b.mirrored.handle, b.mirrored.loaded, ?_, ?_,
      fun idle => absurd idle active.not_idle⟩
    · intro other h_active q
      exact (f.zones other q).trans (b.mirrored.zones other h_active q)
    · intro other fonts h_active hf
      obtain rfl := active.eq h_active
      rw [f.fonts, if_pos rfl, Option.map_eq_some_iff] at hf
      obtain ⟨before, hb, rfl⟩ := hf
      rw [b.mirrored.fonts native before active hb]

/-! ### Releasing a sample -/

/-- Detaching a sample everywhere sheds zones of that sample only. -/
theorem sheds_detached (b : r.Beside rest others) (native : SynthHandle) (h : SampleHandle) :
    r.engine.Sheds native (· ≠ h) (r.detached native h) := by
  refine Engine.sheds_detach b.store.sound native _ fun a ha => ?_
  obtain ⟨p, -, rfl⟩ := List.mem_map.1 ha
  exact decide_eq_false fun ne => ne rfl

/-- A sample that is not loaded is not bound either. -/
theorem boundIn_eq_nil (b : r.Beside rest others) (absent : h ∉ r.synth.store.handles) :
    r.synth.router.boundIn h = [] := by
  refine List.eq_nil_iff_forall_not_mem.2 fun p hp => absent ?_
  rw [Router.mem_boundIn, Router.isBound, List.any_eq_true] at hp
  obtain ⟨range, hr, eq⟩ := hp
  rw [← of_decide_eq_true eq]
  exact b.mirrored.loaded p range hr

/-- So there is nothing to let go of. -/
theorem detached_of_not_mem (b : r.Beside rest others) (absent : h ∉ r.synth.store.handles) :
    r.detached native h = r.engine := by
  rw [detached, boundIn_eq_nil b absent]
  rfl

/-- A sample that is not held is bound nowhere, so that there is nothing to forget. -/
theorem unbindAll_of_not_mem (b : r.Beside rest others) (absent : h ∉ r.synth.store.handles) :
    r.synth.router.unbindAll h = r.synth.router := by
  rw [Router.unbindAll, boundIn_eq_nil b absent]
  rfl

/-- Whatever the engine agreed to, in the end the zones of the sample are gone and no others. -/
theorem zones_release_detached (b : r.Beside rest others)
    (active : r.synth.PlaysOn native) (h : SampleHandle) (p : Program) :
    (r.synth.store.release h (r.detached native h)).2.zones native p =
      (r.engine.zones native p).filter (·.sample ≠ h) := by
  have sheds := sheds_detached b native h
  by_cases held : h ∈ r.synth.store.handles
  -- deleting the sample sweeps what a refusal has left
  · rw [Store.release_of_mem held]
    exact ((Engine.deleted_deleteSample sheds.sound h).zones native p).trans (sheds.kept p)
  · rw [Store.release_of_not_mem held, detached_of_not_mem b held, eq_comm, List.filter_eq_self]
    intro z hz
    exact decide_eq_true (ne_of_mem_of_not_mem (b.mirrored.sample_mem active p z hz) held)

/-- Releasing takes the sample, and its ranges on both sides, and nothing else. -/
theorem moves_releaseSample (b : r.Beside rest others) (h : SampleHandle) :
    Moves rest others [h] r (r.releaseSample h).2 := by
  rcases b.mirrored.active_or_idle with ⟨native, active⟩ | idle
  · have sheds := sheds_detached b native h
    have before := b.store.of_keepsSamples sheds.samples sheds.sound
    have released := Store.moves_release before (native :: others) h
    rw [releaseSample_eq active]
    refine ⟨⟨released.beside, ?_, ?_⟩, ?_, ?_⟩
    · rw [released.synths.synths, sheds.synths.synths]
      exact b.synths
    · refine ⟨b.mirrored.handle, ?_, ?_, ?_, fun idle => absurd idle active.not_idle⟩
      · intro q range hr
        rw [Router.ranges_unbindAll, List.mem_filter] at hr
        exact Store.mem_handles_release.2
          ⟨of_decide_eq_true hr.2, b.mirrored.loaded q range hr.1⟩
      · intro other h_active q
        obtain rfl := active.eq h_active
        rw [zones_release_detached b active, Router.ranges_unbindAll,
          b.mirrored.zones native active]
        exact map_zone_filter _ (· ≠ h)
      · intro other fonts h_active hf
        obtain rfl := active.eq h_active
        rw [released.spares.fonts native List.mem_cons_self, sheds.fonts] at hf
        exact b.mirrored.fonts native fonts active hf
    · have others_spared := released.spares.mono (List.Subset.refl rest)
        (List.subset_cons_self native others)
      exact (sheds.spares rest (b.not_mem_others active)).trans others_spared
    · intro k held kept
      have ⟨held', same⟩ := released.keeps k held kept
      exact ⟨held', same.trans (sheds.samples.sample? k)⟩
  · rw [releaseSample_eq_error (Synth.not_playsOn idle)]
    exact .refl b [h]

/-- A sample that was released is no longer held. -/
theorem not_mem_of_releaseSample (b : r.Beside rest others) (h : SampleHandle) :
    h ∉ (r.releaseSample h).2.synth.store.handles := by
  rcases b.mirrored.active_or_idle with ⟨native, active⟩ | idle
  · rw [releaseSample_eq active]
    intro held
    exact (Store.mem_handles_release.1 held).1 rfl
  · rw [releaseSample_eq_error (Synth.not_playsOn idle), (b.mirrored.idle idle).1]
    exact List.not_mem_nil

/-! ### Closing and dropping -/

/-- Closing takes everything that the synthesizer holds, and nothing else. -/
theorem moves_close (b : r.Beside rest others) :
    Moves rest others r.synth.store.handles r r.close := by
  rcases b.mirrored.active_or_idle with ⟨native, active⟩ | idle
  · have other := b.not_mem_others active
    have sheds : r.engine.Sheds native (fun _ => false)
        (detach native (attached r.synth) r.engine) :=
      Engine.sheds_detach b.store.sound native _ fun _ _ => rfl
    have before := b.store.of_keepsSamples sheds.samples sheds.sound
    obtain ⟨released, empty⟩ := Store.moves_releaseAll before others
    have d := Engine.destroyed_destroySynth released.beside.sound native
    have synths : native :: others ~ (r.synth.store.releaseAll
        (detach native (attached r.synth) r.engine)).2.synths := by
      rw [released.synths.synths, sheds.synths.synths]
      have own := b.synths
      rwa [active.handle?] at own
    -- whatever a refusal has left of the zones goes with the synth
    have left := synths.trans (d.synths (synths.mem_iff.1 List.mem_cons_self))
    rw [close_eq active]
    refine ⟨⟨released.beside.of_keepsSamples d.samples d.sound, left.cons_inv, ?_⟩, ?_,
      fun _ held kept => absurd held kept⟩
    · exact ⟨⟨nofun, nofun⟩, nofun, nofun, nofun, fun _ => ⟨empty, fun _ => rfl, rfl⟩⟩
    · exact ((sheds.spares rest other).trans released.spares).trans (d.spares rest other)
  · have closed : Synth.HandleAgrees { r.synth with phase := .closed } := by
      rw [Synth.HandleAgrees, idle]
      exact ⟨nofun, nofun⟩
    rw [close_eq_of_silent (Synth.not_playsOn idle)]
    refine ⟨⟨b.store, b.synths, closed, b.mirrored.loaded, ?_, ?_, b.mirrored.idle⟩, .refl ..,
      fun _ held _ => ⟨held, rfl⟩⟩
    · exact fun native active => absurd active.opened nofun
    · exact fun native fonts active => absurd active.opened nofun

/-- A synthesizer that was closed has no synth. -/
theorem close_idle (b : r.Beside rest others) : r.close.synth.handle? = none := by
  rcases b.mirrored.active_or_idle with ⟨native, active⟩ | idle
  · rw [close_eq active]
  · rw [close_eq_of_silent (Synth.not_playsOn idle)]
    exact idle

/-- A synthesizer that was closed holds nothing. -/
theorem handles_close (b : r.Beside rest others) : r.close.synth.store.handles = [] :=
  ((moves_close b).beside.mirrored.idle (close_idle b)).1

/-- Dropping a synthesizer releases nothing that closing it has not released. -/
theorem drop_eq (b : r.Beside rest others) : r.drop = r.close.engine := by
  rw [drop, Store.releaseAll, handles_close b]
  rfl

/-- A new synthesizer stands beside whoever is there. -/
theorem beside_new {e : Engine} (sound : e.Sound) (held : rest ~ e.handles)
    (played : others ~ e.synths) (policy : OverlapPolicy) :
    Beside rest others ⟨.new policy, e⟩ where
  store := ⟨sound, held, nofun⟩
  synths := played
  mirrored := ⟨⟨nofun, nofun⟩, nofun, nofun, nofun, fun _ => ⟨rfl, fun _ => rfl, rfl⟩⟩

/-- What a dropped synthesizer leaves behind is as if it had never been opened. -/
theorem moves_drop (b : r.Beside rest others) (policy : OverlapPolicy) :
    Moves rest others r.synth.store.handles r ⟨.new policy, r.drop⟩ := by
  have close := moves_close b
  have held := close.beside.store.handles
  have played := close.beside.synths
  rw [handles_close b] at held
  rw [close_idle b] at played
  rw [drop_eq b]
  exact ⟨beside_new close.beside.store.sound held played policy, close.spares,
    fun _ held kept => absurd held kept⟩

end Rig

end SampleBank
