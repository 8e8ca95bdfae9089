import SampleBank.Proofs.Synth.Mirror

/-!
# Applying layouts beside others

Applying a layout is a run of loads and binds on one synthesizer, so it does to the others what
those do: nothing (`Layout.moves_apply`). When a sample cannot be bound it is released again, and as
it is new no sample that was there before is lost, wherever the layout stops.
-/

namespace SampleBank

variable {rest : List SampleHandle} {others : List SynthHandle}

section

variable {r : Rig Engine}

/-- A new sample has a handle that the store did not have. -/
theorem Rig.not_mem_of_loadSample_ok {r' : Rig Engine} {fs : Files} {path : FilePath}
    {rootKey : UInt8} {sample : Sample} (b : r.Beside rest others)
    (loaded : r.loadSample fs path rootKey = (.ok sample, r')) :
    sample.handle ∉ r.synth.store.handles := by
  obtain ⟨native, e', -, agreed, -⟩ := Rig.of_loadSample_ok loaded
  have fresh := (Engine.loaded_of_loadSample b.store.sound agreed).fresh
  intro held
  exact fresh (b.store.held_live held)

theorem SampleBinding.moves_apply (b : r.Beside rest others) (fs : Files) (base : FilePath)
    (binding : SampleBinding) : Rig.Moves rest others [] r (binding.apply fs base r).2 := by
  have load := Rig.moves_loadSample b fs (base.resolve binding.file) binding.rootKey
  rw [SampleBinding.apply]
  split
  · rename_i failed
    rw [failed] at load
    exact load
  · rename_i sample r₁ loaded
    rw [loaded] at load
    have bind := Rig.moves_bind load.beside binding.program binding.lokey binding.hikey
      sample.handle
    split
    · rename_i bound
      rw [bound] at bind
      exact load.trans bind
    · rename_i refused
      rw [refused] at bind
      -- the sample is taken back, which is no loss because it was not there before
      have release := Rig.moves_releaseSample bind.beside sample.handle
      have fresh : ∀ h ∈ [sample.handle], h ∉ r.synth.store.handles := by
        intro h hh
        rw [List.mem_singleton.1 hh]
        exact Rig.not_mem_of_loadSample_ok b loaded
      have undone := (load.trans bind).trans_of_fresh release fresh
      split <;> (rename_i released; rw [released] at undone; exact undone)

end

namespace Layout

variable {E : Type} [SampleEngine E] {fs : Files} {base : FilePath} {r : Rig E} {P : Rig E → Prop}

/-- What loading a SoundFont keeps is kept by loading many, wherever that stops. -/
theorem applyFonts_induction (font : ∀ r path, P r → P (r.loadSoundFont fs path).2)
    (base : FilePath) (fonts : List String) (h : P r) : P (applyFonts fs base fonts r).2 := by
  induction fonts generalizing r with
  | nil => exact h
  | cons file later ih =>
    have first := font r (base.resolve file) h
    rw [applyFonts]
    split
    · rename_i failed
      rw [failed] at first
      exact first
    · rename_i loaded
      rw [loaded] at first
      exact ih first

/-- Where every SoundFont is agreed to, all of them are added in order. -/
theorem applyFonts_ok_of {fonts : List String}
    (font : ∀ r, ∀ path ∈ fonts.map base.resolve, P r →
      ∃ number r', r.loadSoundFont fs path = (.ok number, r') ∧ P r' ∧
        r'.synth = { r.synth with soundFonts := r.synth.soundFonts ++ [path] }) (h : P r) :
    ∃ r', applyFonts fs base fonts r = (.ok (), r') ∧ P r' ∧
      r'.synth = { r.synth with
        soundFonts := r.synth.soundFonts ++ fonts.map base.resolve } := by
  induction fonts generalizing r with
  | nil => exact ⟨r, rfl, h, by rw [List.map_nil, List.append_nil]⟩
  | cons file later ih =>
    obtain ⟨number, r₁, loaded, h₁, synth₁⟩ := font r _ List.mem_cons_self h
    obtain ⟨r₂, applied, h₂, synth₂⟩ := ih (fun r path hp => font r path (.tail _ hp)) h₁
    refine ⟨r₂, ?_, h₂, ?_⟩
    · rw [applyFonts, loaded]
      exact applied
    · rw [synth₂, synth₁, List.append_assoc]
      rfl

/-- What applying a binding keeps is kept by applying many, wherever that stops. -/
theorem applySamples_induction (binding : ∀ r b, P r → P (SampleBinding.apply fs base b r).2)
    (bindings : List SampleBinding) (h : P r) : P (applySamples fs base bindings r).2 := by
  induction bindings generalizing r with
  | nil => exact h
  | cons b later ih =>
    have first := binding r b h
    rw [applySamples]
    split
    · rename_i failed
      rw [failed] at first
      exact first
    · rename_i applied
      rw [applied] at first
      have all := ih first
      split <;> (rename_i left; rw [left] at all; exact all)

/-- What both keep is kept by a layout. -/
theorem apply_induction (font : ∀ r path, P r → P (r.loadSoundFont fs path).2)
    (binding : ∀ r b, P r → P (SampleBinding.apply fs base b r).2) (l : Layout) (h : P r) :
    P (l.apply fs base r).2 := by
  have fonts := applyFonts_induction font base l.soundFonts h
  rw [apply]
  split
  · rename_i failed
    rw [failed] at fonts
    exact fonts
  · rename_i loaded
    rw [loaded] at fonts
    exact applySamples_induction binding l.samples fonts

/-- Wherever it stops, a layout leaves the others alone and takes no sample away. -/
theorem moves_apply {r : Rig Engine} (b : r.Beside rest others) (fs : Files) (base : FilePath)
    (l : Layout) : Rig.Moves rest others [] r (l.apply fs base r).2 :=
  apply_induction (fun _ path moves => moves.trans (Rig.moves_loadSoundFont moves.beside fs path))
    (fun _ binding moves => moves.trans (binding.moves_apply moves.beside fs base)) l (.refl b [])

end Layout

end SampleBank
