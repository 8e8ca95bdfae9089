import Mathlib.Logic.Relation
import SampleBank.Proofs.Layout.Apply
import SampleBank.Proofs.Router.Log

/-!
# What can happen to a synthesizer

`Synth.Change` lists what a call can do to a synthesizer. It does not say what the engine answers
or what others have done to that engine before, so it holds for any engine: every operation makes
one of these changes or none, and applying a layout makes several, wherever it stops
(`Session.becomes_runSynth`). What a new synthesizer has and every change keeps is therefore true
of every synthesizer, however its engine is shared.

`Synth.Coherent` is such a property. Phase and handle are set together, so a synthesizer has a
handle exactly while it is open, and what is not open holds nothing. A sample is bound only while
the store has it, and released from both at once, so a binding never outlives its sample and a
lookup that hits finds the sample (`Synth.Coherent.resolve`).
-/

namespace SampleBank

namespace Synth

/-- What one call can do to a synthesizer. -/
inductive Change (s : Synth) : Synth → Prop
  | start (native : SynthHandle) : s.phase = .uninitialized →
    s.Change { s with handle? := some native, phase := .open }
  /-- Closing a synthesizer that plays on nothing changes the phase alone. -/
  | abandon : (∀ native, ¬s.PlaysOn native) → s.Change { s with phase := .closed }
  | close (native : SynthHandle) : s.PlaysOn native →
    s.Change ⟨.closed, none, .empty, s.router.clear, []⟩
  | load (h : SampleHandle) (path : FilePath) (rootKey : UInt8) : s.phase = .open →
    s.Change { s with store := ⟨s.store.samples.insert h ⟨h, path, rootKey⟩⟩ }
  | release (h : SampleHandle) : s.phase = .open →
    s.Change { s with store := ⟨s.store.samples.erase h⟩, router := s.router.unbindAll h }
  | bind (p : Program) (range : KeyRange) : s.phase = .open →
    range.sample ∈ s.store.handles → s.router.check p range = .ok () →
    s.Change { s with router := s.router.insert p range }
  | unbind (p : Program) (h : SampleHandle) : s.phase = .open → s.router.isBound p h = true →
    s.Change { s with router := s.router.remove p h }
  | loadSoundFont (path : FilePath) : s.phase = .open →
    s.Change { s with soundFonts := s.soundFonts ++ [path] }

/-- What a synthesizer can become by any number of changes. -/
def Becomes : Synth → Synth → Prop := Relation.ReflTransGen Change

end Synth

/-! ### Operations -/

variable {E : Type} [SampleEngine E]

namespace Rig

variable {fs : Files}

theorem becomes_start (r : Rig E) : r.synth.Becomes r.start.2.synth := by
  rcases opened : r.start with ⟨answer, r'⟩
  cases answer with
  | error cause =>
    obtain rfl | ⟨_, _, -, rfl⟩ := of_start_error opened
    all_goals exact .refl
  | ok _ =>
    obtain ⟨new, native, e', -, rfl⟩ := of_start_ok opened
    exact .single (.start native new)

theorem becomes_loadSample (fs : Files) (path : FilePath) (rootKey : UInt8) (r : Rig E) :
    r.synth.Becomes (r.loadSample fs path rootKey).2.synth := by
  rcases loaded : r.loadSample fs path rootKey with ⟨answer, r'⟩
  cases answer with
  | error cause =>
    obtain rfl | ⟨_, _, -, rfl⟩ := of_loadSample_error loaded
    all_goals exact .refl
  | ok sample =>
    obtain ⟨native, e', plays, -, recorded, rfl⟩ := of_loadSample_ok loaded
    rw [recorded]
    exact .single (.load sample.handle path rootKey plays.opened)

theorem becomes_loadSoundFont (fs : Files) (path : FilePath) (r : Rig E) :
    r.synth.Becomes (r.loadSoundFont fs path).2.synth := by
  rcases loaded : r.loadSoundFont fs path with ⟨answer, r'⟩
  cases answer with
  | error cause =>
    obtain rfl | ⟨_, _, _, -, rfl⟩ := of_loadSoundFont_error loaded
    all_goals exact .refl
  | ok number =>
    obtain ⟨native, e', plays, -, rfl⟩ := of_loadSoundFont_ok loaded
    exact .single (.loadSoundFont path plays.opened)

/-- The engine is asked after the check, and whatever it does, the range is one that passed. -/
theorem becomes_bind (p : Program) (lokey hikey : UInt8) (h : SampleHandle) (r : Rig E) :
    r.synth.Becomes (r.bind p lokey hikey h).2.synth := by
  rcases bound : r.bind p lokey hikey h with ⟨answer, r'⟩
  cases answer with
  | error cause =>
    obtain rfl | ⟨_, _, _, -, rfl⟩ := of_bind_error bound
    all_goals exact .refl
  | ok range =>
    obtain ⟨native, e', plays, zone, held, passed, -, rfl⟩ := of_bind_ok bound
    have sample : range.sample = h := congrArg Zone.sample zone
    exact .single (.bind p range plays.opened (sample ▸ held) passed)

theorem becomes_unbind (p : Program) (h : SampleHandle) (r : Rig E) :
    r.synth.Becomes (r.unbind p h).2.synth := by
  rcases unbound : r.unbind p h with ⟨answer, r'⟩
  cases answer with
  | error cause =>
    obtain rfl | ⟨_, _, _, -, rfl⟩ := of_unbind_error unbound
    all_goals exact .refl
  | ok _ =>
    obtain ⟨native, e', plays, is_bound, -, rfl⟩ := of_unbind_ok unbound
    exact .single (.unbind p h plays.opened is_bound)

/-- Key map and store let go of the sample together, whatever the engine refuses. -/
theorem becomes_releaseSample (h : SampleHandle) (r : Rig E) :
    r.synth.Becomes (r.releaseSample h).2.synth := by
  by_cases played : ∃ native, r.synth.PlaysOn native
  · obtain ⟨native, plays⟩ := played
    rw [releaseSample_eq plays, Store.fst_release]
    exact .single (.release h plays.opened)
  · rw [releaseSample_eq_error (not_exists.1 played)]
    exact .refl

theorem becomes_close (r : Rig E) : r.synth.Becomes r.close.synth := by
  by_cases played : ∃ native, r.synth.PlaysOn native
  · obtain ⟨native, plays⟩ := played
    rw [close_eq plays, Store.fst_releaseAll]
    exact .single (.close native plays)
  · rw [close_eq_of_silent (not_exists.1 played)]
    exact .single (.abandon (not_exists.1 played))

end Rig

/-! ### Layouts -/

theorem SampleBinding.becomes_apply (fs : Files) (base : FilePath) (b : SampleBinding) (r : Rig E) :
    r.synth.Becomes (b.apply fs base r).2.synth := by
  have load := Rig.becomes_loadSample fs (base.resolve b.file) b.rootKey r
  rw [SampleBinding.apply]
  split
  · rename_i failed
    rw [failed] at load
    exact load
  · rename_i sample r₁ loaded
    rw [loaded] at load
    have bind := load.trans (Rig.becomes_bind b.program b.lokey b.hikey sample.handle r₁)
    split
    · rename_i bound
      rw [bound] at bind
      exact bind
    · rename_i r₂ refused
      rw [refused] at bind
      have release := bind.trans (Rig.becomes_releaseSample sample.handle r₂)
      split <;> (rename_i released; rw [released] at release; exact release)

theorem Layout.becomes_apply (fs : Files) (base : FilePath) (l : Layout) (r : Rig E) :
    r.synth.Becomes (l.apply fs base r).2.synth :=
  apply_induction (P := fun left => r.synth.Becomes left.synth)
    (fun r₁ path before => before.trans (Rig.becomes_loadSoundFont fs path r₁))
    (fun r₁ binding before => before.trans (binding.becomes_apply fs base r₁)) l .refl

/-- A synthesizer that is still there after a command has changed in these ways only. -/
theorem Session.becomes_runSynth {fs : Files} {r : Rig E} {command : SynthCommand} {left : Synth}
    (h : (runSynth fs r command).2.1 = some left) : r.synth.Becomes left := by
  cases command with
  | start => exact Option.some.inj h ▸ Rig.becomes_start r
  | close => exact Option.some.inj h ▸ Rig.becomes_close r
  | drop => cases h
  | load path rootKey => exact Option.some.inj h ▸ Rig.becomes_loadSample fs path rootKey r
  | release k => exact Option.some.inj h ▸ Rig.becomes_releaseSample k r
  | bind p lokey hikey k => exact Option.some.inj h ▸ Rig.becomes_bind p lokey hikey k r
  | unbind p k => exact Option.some.inj h ▸ Rig.becomes_unbind p k r
  | loadSoundFont path => exact Option.some.inj h ▸ Rig.becomes_loadSoundFont fs path r
  | apply layout base => exact Option.some.inj h ▸ layout.becomes_apply fs base r
  | applyBinding binding base => exact Option.some.inj h ▸ binding.becomes_apply fs base r

/-! ### What every change keeps -/

namespace Synth

variable {s t : Synth}

/-- Phase, handle, store and key map fit together. -/
structure Coherent (s : Synth) : Prop where
  handle : s.HandleAgrees
  inOrder : s.router.InOrder
  /-- What is bound is loaded. -/
  held : ∀ p, ∀ range ∈ s.router.ranges p, range.sample ∈ s.store.handles
  /-- A sample is filed under its handle. -/
  keyed : ∀ h sample, s.store.lookup h = some sample → sample.handle = h
  /-- A synthesizer that is not open has no samples and SoundFonts. -/
  blank : s.phase ≠ .open → s.store = .empty ∧ s.soundFonts = []

theorem coherent_new (policy : OverlapPolicy) : (new policy).Coherent :=
  ⟨⟨nofun, nofun⟩, .empty policy, nofun, nofun, fun _ => ⟨rfl, rfl⟩⟩

/-- A sample that joins the store is filed under its handle, and the others stay. -/
theorem Coherent.load (c : s.Coherent) (opened : s.phase = .open) (h : SampleHandle)
    (path : FilePath) (rootKey : UInt8) :
    Coherent { s with store := ⟨s.store.samples.insert h ⟨h, path, rootKey⟩⟩ } where
  handle := c.handle
  inOrder := c.inOrder
  held p range hr := by
    have before := Store.mem_handles_iff.1 (c.held p range hr)
    exact Store.mem_handles_iff.2 (SortedMap.contains_insert_iff.2 (.inr before))
  keyed k sample found := by
    rw [Store.lookup, SortedMap.find?_insert_eq_ite] at found
    split at found
    · rename_i eq
      rw [eq, ← Option.some.inj found]
    · exact c.keyed k sample found
  blank idle := absurd opened idle

/-- No range of a sample is left when the store lets go of it. -/
theorem Coherent.release (c : s.Coherent) (opened : s.phase = .open) (h : SampleHandle) :
    Coherent { s with store := ⟨s.store.samples.erase h⟩, router := s.router.unbindAll h } where
  handle := c.handle
  inOrder := c.inOrder.unbindAll h
  held p range hr := by
    rw [Router.ranges_unbindAll, List.mem_filter, decide_eq_true_eq] at hr
    have before := Store.mem_handles_iff.1 (c.held p range hr.1)
    exact Store.mem_handles_iff.2 (SortedMap.contains_erase_iff.2 ⟨hr.2, before⟩)
  keyed k sample found := by
    rw [Store.lookup, SortedMap.find?_erase_eq_ite] at found
    split at found
    · cases found
    · exact c.keyed k sample found
  blank idle := absurd opened idle

theorem Coherent.bind {p : Program} {range : KeyRange} (c : s.Coherent) (opened : s.phase = .open)
    (held : range.sample ∈ s.store.handles) :
    Coherent { s with router := s.router.insert p range } where
  handle := c.handle
  inOrder := c.inOrder.insert p range
  held q other hr := by
    rw [Router.ranges_insert] at hr
    split at hr
    · rcases List.mem_append.1 hr with before | joined
      · exact c.held p other before
      · rw [List.mem_singleton.1 joined]
        exact held
    · exact c.held q other hr
  keyed := c.keyed
  blank idle := absurd opened idle

theorem Coherent.unbind (c : s.Coherent) (opened : s.phase = .open) (p : Program)
    (h : SampleHandle) : Coherent { s with router := s.router.remove p h } where
  handle := c.handle
  inOrder := c.inOrder.remove p h
  held q range hr := by
    rw [Router.ranges_remove] at hr
    split at hr
    · exact c.held p range (List.mem_filter.1 hr).1
    · exact c.held q range hr
  keyed := c.keyed
  blank idle := absurd opened idle

/-- Where phase and handle agree, what plays on nothing has no handle and was never filled. -/
theorem Coherent.abandon (c : s.Coherent) (silent : ∀ native, ¬s.PlaysOn native) :
    Coherent { s with phase := .closed } := by
  obtain ⟨native, plays⟩ | ⟨no_handle, unopened⟩ := c.handle.plays_or_idle
  · exact absurd plays (silent native)
  · refine ⟨?_, c.inOrder, c.held, c.keyed, fun _ => c.blank unopened⟩
    rw [HandleAgrees, no_handle]
    constructor
    · intro h
      cases h
    · intro h
      cases h

theorem Change.coherent (change : s.Change t) (c : s.Coherent) : t.Coherent := by
  cases change with
  | start native new =>
    exact ⟨⟨fun _ => rfl, fun _ => rfl⟩, c.inOrder, c.held, c.keyed, fun idle => absurd rfl idle⟩
  | abandon silent => exact c.abandon silent
  | close native plays => exact ⟨⟨nofun, nofun⟩, .clear _, nofun, nofun, fun _ => ⟨rfl, rfl⟩⟩
  | load h path rootKey opened => exact c.load opened h path rootKey
  | release h opened => exact c.release opened h
  | bind p range opened held passed => exact c.bind opened held
  | unbind p h opened bound => exact c.unbind opened p h
  | loadSoundFont path opened =>
    exact ⟨c.handle, c.inOrder, c.held, c.keyed, fun idle => absurd opened idle⟩

theorem Becomes.coherent (b : s.Becomes t) (c : s.Coherent) : t.Coherent := by
  induction b with
  | refl => exact c
  | tail _ change ih => exact change.coherent ih

namespace Coherent

/-- Where there are no samples nothing is bound. -/
theorem ranges_eq_nil (c : s.Coherent) (idle : s.phase ≠ .open) (p : Program) :
    s.router.ranges p = [] := by
  refine List.eq_nil_iff_forall_not_mem.2 fun range hr => ?_
  have held := c.held p range hr
  rw [(c.blank idle).1] at held
  cases held

theorem no_bindings (c : s.Coherent) (idle : s.phase ≠ .open) :
    s.router.isEmpty = true ∧ s.router.bindings = [] := by
  have follows : s.router.Follows [] := ⟨c.inOrder, c.ranges_eq_nil idle⟩
  refine ⟨follows.isEmpty_iff.2 rfl, ?_⟩
  rw [follows.answers.bindings, List.mergeSort_nil]

/-- A lookup in an open synthesizer answers with the sample that the key map has for the key. The
store always has it. -/
theorem resolve (c : s.Coherent) (opened : s.phase = .open) {p : Program} {key : UInt8}
    (valid : p.Valid) (hk : key ≤ maxKey) :
    ∃ answer, s.resolve p key = .ok answer ∧
      answer.map (·.handle) = s.router.resolve p key := by
  obtain ⟨native, plays⟩ := c.handle.exists_playsOn opened
  refine ⟨_, plays.resolve_eq valid hk, ?_⟩
  cases hit : s.router.resolve p key with
  | none => rfl
  | some h =>
    rw [Router.resolve_eq c.inOrder, Option.map_eq_some_iff] at hit
    obtain ⟨range, last, rfl⟩ := hit
    have covering := List.mem_filter.1 (List.mem_of_getLast? last)
    obtain ⟨sample, found⟩ := Store.mem_handles_iff_lookup.1 (c.held p range covering.1)
    rw [Option.bind_some, found, Option.map_some, c.keyed _ sample found]

end Coherent

end Synth

end SampleBank
