import SampleBank.Proofs.Engine.Deletion
import SampleBank.Proofs.Session.KeyMap
import SampleBank.Proofs.Session.Ownership

/-!
# Releasing a sample

A synthesizer that releases a sample asks the engine to detach it from one program after the other,
passes over what the engine refuses, and has the sample deleted. As the deletion sweeps the zones
of the sample from all programs, the detaching makes no difference in the end: what is left is the
engine without the sample, however often it was bound and whatever the engine has refused
(`Rig.releaseSample_of_mem`). Every other sample, range and zone stays where it was
(`Rig.Loses`), and a sample that the synthesizer does not have stays altogether, even if another
user of the engine has it.

`Session.releases_of_reachable` says this of a session whose engine is called by stores and
synthesizers only. It follows that releasing again does nothing, and that it does not matter
whether the engine is told to refuse before or after.
-/

namespace SampleBank

/-- The synthesizer without a sample and its ranges. -/
def Synth.without (s : Synth) (h : SampleHandle) : Synth :=
  { s with store := ⟨s.store.samples.erase h⟩, router := s.router.unbindAll h }

namespace Rig

/-- The synthesizer without a sample, on an engine without it. -/
def without (h : SampleHandle) (r : Rig Engine) : Rig Engine :=
  ⟨r.synth.without h, r.engine.without h⟩

/-- A sample is gone from a synthesizer and its engine, and everything else is as it was. -/
structure Loses (h : SampleHandle) (r r' : Rig Engine) : Prop where
  phase : r'.synth.phase = r.synth.phase
  handle? : r'.synth.handle? = r.synth.handle?
  soundFonts : r'.synth.soundFonts = r.synth.soundFonts
  lookup : ∀ k, r'.synth.store.lookup k = if k = h then none else r.synth.store.lookup k
  policy : r'.synth.router.policy = r.synth.router.policy
  nextOrder : r'.synth.router.nextOrder = r.synth.router.nextOrder
  /-- The other ranges stay, in bind order and with their numbers. -/
  bound : ∀ p, r'.synth.router.bound p = (r.synth.router.bound p).filter (·.range.sample ≠ h)
  /-- A program is dropped if no range is left there, and only then. -/
  programs : ∀ p, r'.synth.router.programs.find? p =
    (r.synth.router.programs.find? p).bind (Router.without? h)
  dead : h ∉ r'.engine.handles
  sample? : ∀ k, r'.engine.sample? k = if k = h then none else r.engine.sample? k
  /-- The other zones of all synths stay, in their order. -/
  zones : ∀ native p, r'.engine.zones native p = (r.engine.zones native p).filter (·.sample ≠ h)
  /-- Of the engine's state nothing else has changed. -/
  engine : r'.engine = r.engine.without h

variable {rest : List SampleHandle} {others : List SynthHandle} {r : Rig Engine}
  {native : SynthHandle} {h : SampleHandle}

theorem without_detach (native : SynthHandle) (h : SampleHandle) (programs : List Program)
    (e : Engine) : (detach native (programs.map (h, ·)) e).without h = e.without h := by
  induction programs generalizing e with
  | nil => rfl
  | cons p later ih => exact (ih _).trans (e.without_unbind native h p)

/-- A sample that the synthesizer has is taken from it and from the engine. -/
theorem releaseSample_of_mem (b : r.Beside rest others) (active : r.synth.PlaysOn native)
    (held : h ∈ r.synth.store.handles) : r.releaseSample h = (.ok (), r.without h) := by
  have live : h ∈ (r.detached native h).handles := by
    rw [(sheds_detached b native h).samples.handles]
    exact b.store.held_live held
  have deleted : SampleEngine.deleteSample h (r.detached native h) = r.engine.without h :=
    (Engine.deleteSample_eq live).trans (without_detach native h _ r.engine)
  rw [releaseSample_eq active, Store.release_of_mem held, deleted]
  rfl

/-- A sample that the synthesizer does not have is ignored. -/
theorem releaseSample_of_not_mem (b : r.Beside rest others)
    (active : r.synth.PlaysOn native) (absent : h ∉ r.synth.store.handles) :
    r.releaseSample h = (.ok (), r) := by
  rw [releaseSample_eq active, detached_of_not_mem b absent, Store.release_of_not_mem absent,
    unbindAll_of_not_mem b absent]

theorem loses_without (b : r.Beside rest others) (inOrder : r.synth.router.InOrder)
    (held : h ∈ r.synth.store.handles) : r.Loses h (r.without h) := by
  have live := b.store.held_live held
  have d := Engine.deleted_deleteSample b.store.sound h
  rw [Engine.deleteSample_eq live] at d
  have once := (d.handles live).nodup_iff.1 (Engine.nodup_handles _)
  exact {
    phase := rfl
    handle? := rfl
    soundFonts := rfl
    lookup := fun k => SortedMap.find?_erase_eq_ite ..
    policy := Router.policy_unbindAll
    nextOrder := Router.nextOrder_unbindAll
    bound := fun p => Router.bound_unbindAll
    programs := inOrder.find?_unbindAll h
    dead := (List.nodup_cons.1 once).1
    sample? := d.sample?
    zones := d.zones
    engine := rfl }

end Rig

namespace Session

/-- What becomes of a session when a synthesizer is asked to release a sample. -/
structure Releases (s : Session) (fs : Files) (i : Nat) (synth : Synth) (h : SampleHandle) :
    Prop where
  answer : (s.step fs (.synth i (.release h))).1 = .done
  /-- A sample of the synthesizer goes. The other users are as they were. -/
  held : h ∈ synth.store.handles → ∃ r, Rig.Loses h ⟨synth, s.engine⟩ r ∧
    (s.step fs (.synth i (.release h))).2 =
      { s with engine := r.engine, synths := s.synths.set i (some r.synth) }
  /-- Any other sample stays, and so does everything else. -/
  absent : h ∉ synth.store.handles → (s.step fs (.synth i (.release h))).2 = s
  /-- Releasing it again does nothing. -/
  again : ∀ fs', (s.step fs (.synth i (.release h))).2.step fs' (.synth i (.release h)) =
    (.done, (s.step fs (.synth i (.release h))).2)
  /-- What a mock engine refuses makes no difference. -/
  refused : ∀ call on,
    ((s.step fs (.setRefusal call on)).2.step fs (.synth i (.release h))).2 =
      ((s.step fs (.synth i (.release h))).2.step fs (.setRefusal call on)).2

variable {s : Session} {i : Nat} {synth : Synth} {native : SynthHandle} {h : SampleHandle}

theorem Shared.release_of_mem (sh : s.Shared) (hs : s.synth? i = some synth)
    (active : synth.PlaysOn native) (held : h ∈ synth.store.handles) (fs : Files) :
    s.step fs (.synth i (.release h)) = (.done, { s with
      engine := s.engine.without h, synths := s.synths.set i (some (synth.without h)) }) := by
  have beside := (sh.front_synth hs).rig_beside
  have released := Rig.releaseSample_of_mem beside active held
  rw [Session.step, hs]
  simp only [runSynth, still, released]
  rfl

theorem Shared.release_of_not_mem (sh : s.Shared) (hs : s.synth? i = some synth)
    (active : synth.PlaysOn native) (absent : h ∉ synth.store.handles) (fs : Files) :
    s.step fs (.synth i (.release h)) = (.done, s) := by
  have beside := (sh.front_synth hs).rig_beside
  refine step_synth_self hs ?_
  rw [runSynth, Rig.releaseSample_of_not_mem beside active absent]
  rfl

/-- An engine that is told what to refuse has the same users. -/
theorem synth?_setRefusal (s : Session) (fs : Files) (call : MockCall) (on : Bool) (i : Nat) :
    (s.step fs (.setRefusal call on)).2.synth? i = s.synth? i := by
  obtain ⟨engine, stores, synths⟩ := s
  cases engine with
  | ram r => rfl
  | mock m => rfl

/-- Wherever stores and synthesizers take a session by themselves, releasing a sample takes it from
an open synthesizer that has it, with all its ranges and zones, and nothing else from anyone. -/
theorem releases_of_reachable (reachable : s.Reachable Command.Mediated)
    (hs : s.synth? i = some synth) (opened : synth.phase = .open) (fs : Files)
    (h : SampleHandle) : s.Releases fs i synth h := by
  have sh := reachable.shared
  obtain ⟨native, active⟩ := (sh.handleAgrees hs).exists_playsOn opened
  have told (call : MockCall) (on : Bool) : (s.step fs (.setRefusal call on)).2.Shared :=
    sh.step fs trivial
  by_cases held : h ∈ synth.store.handles
  · have released := sh.release_of_mem hs active held fs
    have beside := (sh.front_synth hs).rig_beside
    refine ⟨by rw [released], fun _ => ?_, fun absent => absurd held absent, fun fs' => ?_,
      fun call on => ?_⟩
    · have loses := Rig.loses_without beside (reachable.coherent hs).inOrder held
      exact ⟨_, loses, by rw [released]; rfl⟩
    -- the synthesizer that is left does not have the sample any more
    · have left := synth?_step_synth hs fs (.release h)
      rw [runSynth, Rig.releaseSample_of_mem beside active held] at left
      have gone : h ∉ (synth.without h).store.handles := fun again =>
        (SortedMap.contains_erase_iff.1 (Store.mem_handles_iff.1 again)).1 rfl
      have after := sh.step (c := .synth i (.release h)) fs trivial
      exact after.release_of_not_mem left active gone fs'
    · rw [(told call on).release_of_mem ((s.synth?_setRefusal fs call on i).trans hs) active held,
        released]
      obtain ⟨engine, stores, synths⟩ := s
      cases engine with
      | ram r => rfl
      | mock m => rfl
  · have released := sh.release_of_not_mem hs active held
    refine ⟨by rw [released], fun mem => absurd mem held, fun _ => by rw [released], fun fs' => ?_,
      fun call on => ?_⟩
    · rw [released, released]
    · rw [(told call on).release_of_not_mem ((s.synth?_setRefusal fs call on i).trans hs) active
        held, released]

/-- The engine refuses to detach the sample, which is bound twice and goes all the same. The other
sample is the store's, and stays. -/
theorem releases_busyPair :
    (let after := (busyPair.step ⟨"", []⟩ (.synth 0 (.release ⟨1⟩))).2
     ⟨1⟩ ∉ after.engine.handles ∧ after.engine.zones ⟨0⟩ ⟨0, 0⟩ = [] ∧
      after.engine.sample? ⟨0⟩ = some ⟨⟨[]⟩, 60, []⟩) ∧
      (busyPair.step ⟨"", []⟩ (.synth 0 (.release ⟨0⟩))).2 = busyPair := by
  have released (h : SampleHandle) :=
    releases_of_reachable (i := 0) reachable_busyPair rfl rfl ⟨"", []⟩ h
  obtain ⟨r, loses, after⟩ := (released ⟨1⟩).held (by decide)
  refine ⟨?_, (released ⟨0⟩).absent (by decide)⟩
  rw [after]
  exact ⟨loses.dead, loses.zones ⟨0⟩ ⟨0, 0⟩, loses.sample? ⟨0⟩⟩

end Session

end SampleBank
