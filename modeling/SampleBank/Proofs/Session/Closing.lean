import SampleBank.Proofs.Session.KeyMap
import SampleBank.Proofs.Session.Mirror
import SampleBank.Proofs.Session.Ownership

/-!
# What closing leaves behind

Closing a synthesizer asks the engine to detach each of its bindings, and the engine may refuse. The
synthesizer does not insist: it then deletes its samples and destroys its synth, and these sweep
whatever zones a refusal has left. So in a session whose engine is called by stores and synthesizers
only, nothing of a closed synthesizer is left at the engine (`Synth.Released`) or in itself
(`Synth.Emptied`), and dropping it comes to the same.

What is released is read off the invariant, not off the order of the calls. The engine holds what
its users hold, before and after, and a synthesizer that is not open holds nothing; so what it held
before is what went (`Rig.Beside.released`). For the same reason an engine is bare once none of its
users holds anything (`Engine.Bare`).
-/

namespace SampleBank

open scoped List

/-- Everything that a synthesizer had at an engine is gone from it, and no other sample is. -/
structure Synth.Released (s : Synth) (e e' : Engine) : Prop where
  synth : ∀ native, s.handle? = some native →
    native ∉ e'.synths ∧ ∀ p, e'.zones native p = []
  samples : ∀ h ∈ s.store.handles, h ∉ e'.handles
  counted : e'.liveSamples + s.store.size = e.liveSamples

/-- A synthesizer that is closed and has nothing. -/
structure Synth.Emptied (s : Synth) : Prop where
  phase : s.phase = .closed
  handle : s.handle? = none
  store : s.store = .empty
  isEmpty_router : s.router.isEmpty = true
  bindings : s.router.bindings = []
  soundFonts : s.soundFonts = []

/-- An engine without synths, samples and zones, also by its own count. -/
structure Engine.Bare (e : Engine) : Prop where
  synths : e.synths = []
  liveSamples : e.liveSamples = 0
  zones : ∀ native p, e.zones native p = []
  mock : ∀ m, e = .mock m → m.liveSynths = 0 ∧ m.liveZones = 0

/-- Zones need a synth, so an engine is bare without synths and samples. -/
theorem Engine.Sound.bare {e : Engine} (sound : e.Sound) (synths : e.synths = [])
    (handles : e.handles = []) : e.Bare := by
  have zones : ∀ native p, e.zones native p = [] := fun native p =>
    sound.zones_eq_nil (synths ▸ List.not_mem_nil) p
  refine ⟨synths, by rw [← e.length_handles, handles, List.length_nil], zones, ?_⟩
  rintro m rfl
  refine ⟨?_, List.length_eq_zero_iff.2 (List.eq_nil_iff_forall_not_mem.2 fun z hz => ?_)⟩
  · rw [Mock.liveSynths, ← SortedMap.length_keys]
    exact congrArg List.length synths
  · have seen : z.zone ∈ (Engine.mock m).zones z.synth z.program :=
      List.mem_map_of_mem (List.mem_filter.2 ⟨hz, decide_eq_true ⟨rfl, rfl⟩⟩)
    rw [zones] at seen
    cases seen

/-! ### At one synthesizer -/

namespace Synth

variable {s : Synth}

theorem HandleAgrees.handle?_of_closed (agree : s.HandleAgrees) (closed : s.phase = .closed) :
    s.handle? = none :=
  agree.handle?_eq_none (by rw [closed]; nofun)

end Synth

namespace Rig

variable {rest : List SampleHandle} {others : List SynthHandle} {r r' : Rig Engine}

/-- A synthesizer that was open and is not any more has released what it held. -/
theorem Beside.released (b : r.Beside rest others) (b' : r'.Beside rest others)
    (idle : r'.synth.handle? = none) : r.synth.Released r.engine r'.engine := by
  -- nobody is left but the others
  have played : others ~ r'.engine.synths := by
    have now := b'.synths
    rwa [idle] at now
  have held : rest ~ r'.engine.handles := by
    have now := b'.store.handles
    rwa [(b'.mirrored.idle idle).1] at now
  refine ⟨fun native own => ?_, fun h own live => ?_, ?_⟩
  · have gone : native ∉ r'.engine.synths := fun live =>
      b.not_mem_others (b.mirrored.handle.playsOn own) (played.mem_iff.2 live)
    exact ⟨gone, b'.store.sound.zones_eq_nil gone⟩
  · exact b.store.not_mem_rest own (held.mem_iff.2 live)
  · rw [← r.engine.length_handles, ← r'.engine.length_handles, ← b.store.handles.length_eq,
      ← held.length_eq, List.length_append, Store.length_handles, Nat.add_comm]

theorem phase_close (r : Rig Engine) : r.close.synth.phase = .closed := by
  by_cases played : ∃ native, r.synth.PlaysOn native
  · obtain ⟨native, active⟩ := played
    rw [close_eq active]
  · rw [close_eq_of_silent (not_exists.1 played)]

theorem close_of_closed (closed : r.synth.phase = .closed) : r.close = r := by
  have silent (native : SynthHandle) : ¬r.synth.PlaysOn native := fun active =>
    absurd (closed.symm.trans active.opened) nofun
  rw [close_eq_of_silent silent, ← closed]

end Rig

/-! ### In a session -/

namespace Session

/-- What becomes of a synthesizer in a session when it is closed, and when it is dropped. -/
structure LetsGo (s : Session) (fs : Files) (i : Nat) (synth : Synth) : Prop where
  close : synth.Released s.engine (s.step fs (.synth i .close)).2.engine
  closed : ∃ left, (s.step fs (.synth i .close)).2.synth? i = some left ∧ left.Emptied
  drop : synth.Released s.engine (s.step fs (.synth i .drop)).2.engine
  /-- Dropping it does no more at the engine than closing it. -/
  drop_engine : (s.step fs (.synth i .drop)).2.engine = (s.step fs (.synth i .close)).2.engine
  dropped : (s.step fs (.synth i .drop)).2.synth? i = none
  /-- Closing what is closed changes nothing. -/
  close_again : synth.phase = .closed → s.step fs (.synth i .close) = (.done, s)
  /-- When it is dropped after that, there is nothing left for the engine to do. -/
  drop_again : synth.phase = .closed →
    s.step fs (.synth i .drop) = (.done, { s with synths := s.synths.set i none })

variable {s : Session} {i : Nat} {synth : Synth} {fs : Files}

/-- A synthesizer that is not open holds nothing, and so has an empty key map. -/
theorem Reachable.emptied (reachable : s.Reachable Command.Mediated)
    (hs : s.synth? i = some synth) (closed : synth.phase = .closed) : synth.Emptied := by
  have coherent := reachable.coherent hs
  have idle : synth.phase ≠ .open := closed ▸ nofun
  have ⟨isEmpty_router, bindings⟩ := coherent.no_bindings idle
  have ⟨store, soundFonts⟩ := coherent.blank idle
  have handle := coherent.handle.handle?_of_closed closed
  exact ⟨closed, handle, store, isEmpty_router, bindings, soundFonts⟩

theorem Reachable.letsGo (reachable : s.Reachable Command.Mediated) (fs : Files)
    (hs : s.synth? i = some synth) : s.LetsGo fs i synth where
  close := by
    have beside := (reachable.shared.front_synth hs).rig_beside
    rw [engine_step_synth hs]
    exact beside.released (Rig.moves_close beside).beside (Rig.close_idle beside)
  closed := by
    have left := synth?_step_synth hs fs .close
    have closing := reachable.step (c := .synth i .close) fs trivial
    exact ⟨_, left, closing.emptied left (Rig.phase_close _)⟩
  drop := by
    have beside := (reachable.shared.front_synth hs).rig_beside
    rw [engine_step_synth hs]
    exact beside.released (Rig.moves_drop beside .reject).beside rfl
  drop_engine := by
    rw [engine_step_synth hs, engine_step_synth hs]
    exact Rig.drop_eq (reachable.shared.front_synth hs).rig_beside
  dropped := synth?_step_synth hs fs .drop
  close_again closed := by
    have same : Rig.close ⟨synth, s.engine⟩ = ⟨synth, s.engine⟩ := Rig.close_of_closed closed
    exact step_synth_self hs (by rw [runSynth, same])
  drop_again closed := by
    have beside := (reachable.shared.front_synth hs).rig_beside
    have same : Rig.close ⟨synth, s.engine⟩ = ⟨synth, s.engine⟩ := Rig.close_of_closed closed
    rw [Session.step, hs]
    simp only [runSynth, Rig.drop_eq beside, same]

/-- Users who are closed or gone hold nothing, and play on nothing. -/
theorem Reachable.bare (reachable : s.Reachable Command.Mediated)
    (closed : ∀ i synth, s.synth? i = some synth → synth.phase = .closed)
    (dropped : ∀ i, s.store? i = none) : s.engine.Bare := by
  have sh := reachable.shared
  have closed_of_mem : ∀ synth ∈ s.liveSynths, ∃ i, s.synth? i = some synth ∧ synth.Emptied := by
    intro synth hs
    obtain ⟨i, here⟩ := exists_place_of_mem hs
    exact ⟨i, here, reachable.emptied here (closed i synth here)⟩
  have played : playedBy s.liveSynths = [] := by
    refine List.flatMap_eq_nil_iff.2 fun synth hs => ?_
    obtain ⟨i, -, emptied⟩ := closed_of_mem synth hs
    rw [emptied.handle]
    rfl
  have held : heldBy s.liveStores s.liveSynths = [] := by
    refine List.append_eq_nil_iff.2 ⟨List.flatMap_eq_nil_iff.2 fun store hs => ?_,
      List.flatMap_eq_nil_iff.2 fun synth hs => ?_⟩
    · obtain ⟨i, here⟩ := exists_place_of_mem hs
      cases here.symm.trans (dropped i)
    · obtain ⟨i, -, emptied⟩ := closed_of_mem synth hs
      rw [emptied.store]
      rfl
  exact sh.sound.bare (List.nil_perm.1 (played ▸ sh.played)) (List.nil_perm.1 (held ▸ sh.held))

/-- Wherever stores and synthesizers take a session by themselves, a synthesizer that is closed or
dropped leaves nothing at the engine, whatever the engine refuses, and once all are closed or
dropped and the stores are dropped, the engine has nothing. -/
theorem letsGo_and_bare_of_reachable (reachable : s.Reachable Command.Mediated) :
    (∀ fs i synth, s.synth? i = some synth → s.LetsGo fs i synth) ∧
      ((∀ i synth, s.synth? i = some synth → synth.phase = .closed) → (∀ i, s.store? i = none) →
        s.engine.Bare) :=
  ⟨fun fs _ _ hs => reachable.letsGo fs hs, reachable.bare⟩

/-- The engine refuses to detach the sample, which goes all the same, with its zones and the synth.
The other sample goes with its store. -/
theorem letsGo_busyPair :
    (let after := (busyPair.step ⟨"", []⟩ (.synth 0 .close)).2
     ⟨0⟩ ∉ after.engine.synths ∧ after.engine.zones ⟨0⟩ ⟨0, 0⟩ = [] ∧
      ⟨1⟩ ∉ after.engine.handles ∧ after.engine.liveSamples + 1 = busyPair.engine.liveSamples) ∧
      (busyPair.run ⟨"", []⟩ [.synth 0 .close, .store 0 .drop]).engine.Bare := by
  have released := ((letsGo_and_bare_of_reachable reachable_busyPair).1 ⟨"", []⟩ 0 _ rfl).close
  have ⟨synth, zones⟩ := released.synth ⟨0⟩ rfl
  refine ⟨⟨synth, zones ⟨0, 0⟩, released.samples ⟨1⟩ (by decide), released.counted⟩, ?_⟩
  have reachable : (busyPair.run ⟨"", []⟩ [.synth 0 .close, .store 0 .drop]).Reachable
      Command.Mediated := reachable_busyPair.run _ (by decide)
  refine (letsGo_and_bare_of_reachable reachable).2 (fun i synth hs => ?_) (fun i => ?_)
  · cases i with
    | zero => exact Option.some.inj hs ▸ rfl
    | succ i => cases hs
  · cases i with
    | zero => rfl
    | succ i => rfl

end Session

end SampleBank
