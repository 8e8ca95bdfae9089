import SampleBank.Proofs.Session.Sharing

/-!
# Synthesizers and engine stay in step

In a session whose engine is called by stores and synthesizers only, the engine is at every point a
mirror image of the open synthesizers (`Session.InMirror`): each has at the engine exactly the zones
that its key map has ranges, in the order in which they were bound, the RAM engine has its
SoundFonts, and there are no zones but those of open synthesizers.

`Session.inMirror_of_reachable` reads this off `Engine.SharedBy`, the invariant of such a
session. Each synthesizer agrees with the engine about itself, and a zone whose synth nobody plays
on would be the zone of a synth that does not exist.
-/

namespace SampleBank

namespace Session

/-- The engine has what the open synthesizers have, and nothing else. -/
structure InMirror (s : Session) : Prop where
  /-- The zones of a synth are the ranges of its synthesizer, in bind order. -/
  zones : ∀ i synth native, s.synth? i = some synth → synth.PlaysOn native →
    ∀ p, s.engine.zones native p = (synth.router.ranges p).map (·.zone)
  /-- Every zone belongs to a synthesizer that is open. -/
  owned : ∀ native p z, z ∈ s.engine.zones native p →
    ∃ i synth, s.synth? i = some synth ∧ synth.PlaysOn native
  fonts : ∀ i synth native r, s.synth? i = some synth → synth.PlaysOn native →
    s.engine = .ram r → synth.loadedFonts = .ok (r.fonts native)

variable {s : Session} {i : Nat} {synth : Synth} {native : SynthHandle}

theorem Shared.mirrored_of_synth? (sh : s.Shared) (hs : s.synth? i = some synth) :
    synth.Mirrored s.engine :=
  (sh.front_synth hs).mirrored synth List.mem_cons_self

/-- Every synth of the engine is that of an open synthesizer. -/
theorem Shared.exists_active (sh : s.Shared) (hn : native ∈ s.engine.synths) :
    ∃ i synth, s.synth? i = some synth ∧ synth.PlaysOn native := by
  obtain ⟨synth, hs, played⟩ := List.mem_flatMap.1 (sh.played.mem_iff.2 hn)
  obtain ⟨i, here⟩ := exists_place_of_mem hs
  -- only an open synthesizer plays on anything
  rcases (sh.mirrored_of_synth? here).active_or_idle with ⟨other, active⟩ | idle
  · rw [active.handle?] at played
    obtain rfl := List.mem_singleton.1 played
    exact ⟨i, synth, here, active⟩
  · rw [idle] at played
    cases played

theorem Shared.inMirror (sh : s.Shared) : s.InMirror where
  zones i synth native hs active := (sh.mirrored_of_synth? hs).zones native active
  owned native p z hz := sh.exists_active (sh.sound.zone_synth hz)
  fonts i synth native r hs active he := by
    have kept : s.engine.fonts? native = some (r.fonts native) := by rw [he]; rfl
    rw [Synth.loadedFonts, Synth.native_eq_ok_iff.2 active,
      ← (sh.mirrored_of_synth? hs).fonts native _ active kept]
    rfl

/-- Wherever stores and synthesizers take a session by themselves, succeeding or failing, the engine
mirrors the open synthesizers. -/
theorem inMirror_of_reachable (reachable : s.Reachable Command.Mediated) : s.InMirror :=
  reachable.shared.inMirror

/-- The engine has refused to detach the sample, and both sides still have it. -/
theorem inMirror_busyPair :
    busyPair.InMirror ∧
      busyPair.engine.zones ⟨0⟩ ⟨0, 0⟩ = [⟨⟨1⟩, 10, 20⟩, ⟨⟨1⟩, 30, 40⟩] := by
  have mirror := inMirror_of_reachable reachable_busyPair
  exact ⟨mirror, mirror.zones 0 _ ⟨0⟩ rfl ⟨rfl, rfl⟩ ⟨0, 0⟩⟩

end Session

end SampleBank
