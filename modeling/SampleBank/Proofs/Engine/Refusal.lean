import SampleBank.Engine
import SampleBank.Proofs.SortedMap

/-!
# Refused calls leave no trace

A call answers with the engine that it leaves behind. When the answer is an error, that engine is
the one that was called: `Engine.eq_of_createSynth_error` and its companions, one for each kind of
call that can be refused. Most calls check before they change anything. The exception is `unbind`,
which sweeps the zones first and refuses when none went; then the sweep has put back exactly what
was there (`Mock.eq_of_unbind_error`, `Ram.eq_of_unbind_error`).
-/

namespace SampleBank

namespace Mock

variable {m m' : Mock} {cause : EngineError} {native : SynthHandle} {sample : SampleHandle}
  {p : Program} {lokey hikey rootKey : UInt8} {path : FilePath}

theorem eq_of_createSynth_error (h : m.createSynth = (.error cause, m')) : m' = m := by
  rw [createSynth] at h
  split at h
  · exact (Prod.mk.inj h).2.symm
  · cases (Prod.mk.inj h).1

theorem eq_of_loadSample_error (h : m.loadSample path rootKey = (.error cause, m')) : m' = m := by
  rw [loadSample] at h
  split at h
  · exact (Prod.mk.inj h).2.symm
  · cases (Prod.mk.inj h).1

theorem eq_of_bind_error (h : m.bind native sample p lokey hikey = (.error cause, m')) :
    m' = m := by
  rw [bind] at h
  split at h
  · exact (Prod.mk.inj h).2.symm
  · split at h
    · split at h
      · cases (Prod.mk.inj h).1
      · exact (Prod.mk.inj h).2.symm
    · exact (Prod.mk.inj h).2.symm

/-- A sweep that removes no zone leaves the zones as they were. -/
theorem eq_of_unbind_error (h : m.unbind native sample p = (.error cause, m')) : m' = m := by
  rw [unbind] at h
  split at h
  · exact (Prod.mk.inj h).2.symm
  · simp only at h
    split at h
    -- a sublist of the same length is the list itself
    · rename_i same_length
      rw [← (Prod.mk.inj h).2, List.filter_sublist.eq_of_length same_length]
    · cases (Prod.mk.inj h).1

theorem eq_of_loadSoundFont_error (h : m.loadSoundFont native path = (.error cause, m')) :
    m' = m := by
  rw [loadSoundFont] at h
  split at h
  · exact (Prod.mk.inj h).2.symm
  · split at h
    · cases (Prod.mk.inj h).1
    · exact (Prod.mk.inj h).2.symm

end Mock

namespace Ram

variable {r r' : Ram} {s : RamSynth} {cause : EngineError} {native : SynthHandle}
  {sample : SampleHandle} {p : Program} {lokey hikey rootKey : UInt8} {fs : Files}
  {path : FilePath}

/-- The synth with a handle is the engine's synth, and has that handle. -/
theorem synth?_eq_some_iff : r.synth? native = some s ↔ r.synth = some s ∧ s.handle = native := by
  simp [synth?, Option.filter_eq_some_iff]

theorem eq_of_createSynth_error (h : r.createSynth = (.error cause, r')) : r' = r := by
  rw [createSynth] at h
  split at h
  · exact (Prod.mk.inj h).2.symm
  · cases (Prod.mk.inj h).1

/-- A file that is not fit for the RAM engine leaves it as it was. -/
theorem eq_of_loadSample_error (h : r.loadSample fs path rootKey = (.error cause, r')) :
    r' = r := by
  rw [loadSample] at h
  split at h
  · exact (Prod.mk.inj h).2.symm
  · split at h
    · exact (Prod.mk.inj h).2.symm
    · cases (Prod.mk.inj h).1

/-- The RAM engine checks everything before it attaches a zone. -/
theorem eq_of_bind_error (h : r.bind native sample p lokey hikey = (.error cause, r')) :
    r' = r := by
  rw [bind] at h
  split at h
  · split at h
    · split at h
      · exact (Prod.mk.inj h).2.symm
      · cases (Prod.mk.inj h).1
    · exact (Prod.mk.inj h).2.symm
  · exact (Prod.mk.inj h).2.symm

/-- A sweep that removes no zone writes back the zones that were there. -/
theorem eq_of_unbind_error (h : r.unbind native sample p = (.error cause, r')) : r' = r := by
  rw [unbind] at h
  split at h
  · split at h
    · exact (Prod.mk.inj h).2.symm
    · rename_i s hs
      split at h
      · exact (Prod.mk.inj h).2.symm
      · rename_i zones hzones
        simp only at h
        split at h
        · rename_i same_length
          rw [← (Prod.mk.inj h).2, List.filter_sublist.eq_of_length same_length,
            SortedMap.insert_eq_self hzones, ← (synth?_eq_some_iff.1 hs).1]
        · split at h
          · cases (Prod.mk.inj h).1
          · cases (Prod.mk.inj h).1
  · exact (Prod.mk.inj h).2.symm

theorem eq_of_loadSoundFont_error (h : r.loadSoundFont fs native path = (.error cause, r')) :
    r' = r := by
  rw [loadSoundFont] at h
  split at h
  · exact (Prod.mk.inj h).2.symm
  · split at h
    · exact (Prod.mk.inj h).2.symm
    · cases (Prod.mk.inj h).1

end Ram

namespace Engine

variable {e e' : Engine} {cause : EngineError} {native : SynthHandle} {sample : SampleHandle}
  {p : Program} {lokey hikey rootKey : UInt8} {fs : Files} {path : FilePath}

/-- What a call of one of the two engines leaves behind is an engine of that kind. -/
theorem eq_of_map_error {α σ : Type} {kind : σ → Engine} {state : σ}
    {call : Except EngineError α × σ} (h : call.map id kind = (.error cause, e'))
    (kept : ∀ state', call = (.error cause, state') → state' = state) : e' = kind state := by
  obtain ⟨answer, state'⟩ := call
  obtain ⟨rfl, rfl⟩ := Prod.mk.inj h
  rw [kept state' rfl]

/-- Neither engine changes when it refuses a synth. -/
theorem eq_of_createSynth_error (h : e.createSynth = (.error cause, e')) : e' = e := by
  cases e with
  | ram r => exact eq_of_map_error h fun _ => Ram.eq_of_createSynth_error
  | mock m => exact eq_of_map_error h fun _ => Mock.eq_of_createSynth_error

/-- Neither engine changes when it refuses a sample. -/
theorem eq_of_loadSample_error (h : e.loadSample fs path rootKey = (.error cause, e')) :
    e' = e := by
  cases e with
  | ram r => exact eq_of_map_error h fun _ => Ram.eq_of_loadSample_error
  | mock m => exact eq_of_map_error h fun _ => Mock.eq_of_loadSample_error

/-- Neither engine changes when it refuses a zone. -/
theorem eq_of_bind_error (h : e.bind native sample p lokey hikey = (.error cause, e')) :
    e' = e := by
  cases e with
  | ram r => exact eq_of_map_error h fun _ => Ram.eq_of_bind_error
  | mock m => exact eq_of_map_error h fun _ => Mock.eq_of_bind_error

/-- Neither engine changes when it refuses to detach. -/
theorem eq_of_unbind_error (h : e.unbind native sample p = (.error cause, e')) : e' = e := by
  cases e with
  | ram r => exact eq_of_map_error h fun _ => Ram.eq_of_unbind_error
  | mock m => exact eq_of_map_error h fun _ => Mock.eq_of_unbind_error

/-- Neither engine changes when it refuses a SoundFont. -/
theorem eq_of_loadSoundFont_error (h : e.loadSoundFont fs native path = (.error cause, e')) :
    e' = e := by
  cases e with
  | ram r => exact eq_of_map_error h fun _ => Ram.eq_of_loadSoundFont_error
  | mock m => exact eq_of_map_error h fun _ => Mock.eq_of_loadSoundFont_error

end Engine

end SampleBank
