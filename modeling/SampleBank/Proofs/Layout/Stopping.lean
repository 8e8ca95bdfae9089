import SampleBank.Proofs.Layout.DryRun
import SampleBank.Proofs.Session.Releasing
import SampleBank.Proofs.Session.Served

/-!
# Where a layout stops

A layout stops at the first SoundFont or sample that fails, and what it leaves is what the part
before that one leaves by itself (`Layout.StopsAt`). For a SoundFont, and for a sample that cannot
be loaded, this is because an operation that fails changes nothing. A sample that cannot be bound is
another matter: by then it has been decoded, has a slot in the engine and stands in the store. It is
released again, and that goes through key map and engine and would take every range of the sample
away. But its handle is new, so there is no such range, and nothing of what was there before goes
with it (`SampleBinding.of_apply_error`).

Releasing does not fail where loading did not, so the error is that of the binding. The state is
restored up to the one number that cannot be given back, that of a mock engine's next sample
(`Engine.Restored`).
-/

namespace SampleBank

namespace Rig

/-- A synthesizer and its engine are as they were, but for the number of a mock engine's next
sample. -/
structure Restored (r r' : Rig Engine) : Prop where
  synth : r'.synth = r.synth
  engine : r.engine.Restored r'.engine

theorem Restored.refl (r : Rig Engine) : r.Restored r := ⟨rfl, .refl r.engine⟩

end Rig

/-- A binding fails with an error of its own, when its sample is loaded or when that is bound. -/
inductive SampleBinding.Fails (fs : Files) (base : FilePath) (b : SampleBinding) (r : Rig Engine)
    (e : Error) : Prop
  | load {r' : Rig Engine} : r.loadSample fs (base.resolve b.file) b.rootKey = (.error e, r') →
    b.Fails fs base r e
  | bind {sample : Sample} {r₁ r₂ : Rig Engine} :
    r.loadSample fs (base.resolve b.file) b.rootKey = (.ok sample, r₁) →
    r₁.bind b.program b.lokey b.hikey sample.handle = (.error e, r₂) → b.Fails fs base r e

/-- A layout fails with the error of one of its parts and leaves what the parts before that one
leave. -/
inductive Layout.StopsAt (fs : Files) (base : FilePath) (l : Layout) (r : Rig Engine) (e : Error)
    (r' : Rig Engine) : Prop
  | font (done : List String) (font : String) (later : List String) :
    l.soundFonts = done ++ font :: later →
    (⟨done, []⟩ : Layout).apply fs base r = (.ok [], r') →
    r'.loadSoundFont fs (base.resolve font) = (.error e, r') → l.StopsAt fs base r e r'
  | sample (done : List SampleBinding) (b : SampleBinding) (later : List SampleBinding)
    (samples : List Sample) (left : Rig Engine) :
    l.samples = done ++ b :: later →
    (⟨l.soundFonts, done⟩ : Layout).apply fs base r = (.ok samples, left) →
    b.Fails fs base left e → left.Restored r' → l.StopsAt fs base r e r'

variable {rest : List SampleHandle} {others : List SynthHandle} {r r' : Rig Engine} {fs : Files}
  {base : FilePath} {e : Error}

/-! ### One binding -/

/-- A sample that is released right after it was loaded leaves no trace. -/
theorem Rig.restored_releaseSample {r₁ : Rig Engine} {path : FilePath} {rootKey : UInt8}
    {sample : Sample} (b : r.Beside rest others) (tidy : r.engine.Tidy)
    (loaded : r.loadSample fs path rootKey = (.ok sample, r₁)) :
    ∃ r₂, r₁.releaseSample sample.handle = (.ok (), r₂) ∧ r.Restored r₂ := by
  have fresh := Rig.not_mem_of_loadSample_ok b loaded
  have moves := Rig.moves_loadSample b fs path rootKey
  rw [loaded] at moves
  obtain ⟨native, e', active, agreed, -, rfl⟩ := Rig.of_loadSample_ok loaded
  have held : sample.handle ∈ (r.synth.store.samples.insert sample.handle sample).keys :=
    SortedMap.mem_keys_iff.2 (SortedMap.contains_insert_iff.2 (.inl rfl))
  have absent : r.synth.store.samples.contains sample.handle = false := by
    rwa [← Bool.not_eq_true, ← SortedMap.mem_keys_iff]
  have store : (r.synth.store.samples.insert sample.handle sample).erase sample.handle =
      r.synth.store.samples := by
    rw [SortedMap.erase_insert, SortedMap.erase_eq_self absent]
  have router := Rig.unbindAll_of_not_mem b fresh
  refine ⟨_, Rig.releaseSample_of_mem moves.beside active held, ?_, ?_⟩
  · simp only [Rig.without, Synth.without, store, router]
  · have live := moves.beside.store.held_live held
    rw [Rig.without, ← Engine.deleteSample_eq live]
    exact Engine.restored_deleteSample b.store.sound tidy agreed

/-- A binding that fails leaves everything as it was, whether its sample was loaded or not. -/
theorem SampleBinding.of_apply_error {b : SampleBinding} (beside : r.Beside rest others)
    (tidy : r.engine.Tidy) (failed : b.apply fs base r = (.error e, r')) :
    b.Fails fs base r e ∧ r.Restored r' := by
  rw [apply] at failed
  split at failed
  · rename_i cause r₁ refused
    obtain ⟨answer, rfl⟩ := Prod.mk.inj failed
    obtain rfl := Except.error.inj answer
    exact ⟨.load refused, Rig.eq_of_loadSample_error refused ▸ .refl r⟩
  · rename_i sample r₁ loaded
    split at failed
    · cases (Prod.mk.inj failed).1
    · rename_i cause r₂ refused
      obtain rfl := Rig.eq_of_bind_error refused
      obtain ⟨r₃, released, restored⟩ := Rig.restored_releaseSample beside tidy loaded
      rw [released] at failed
      obtain ⟨answer, rfl⟩ := Prod.mk.inj failed
      obtain rfl := Except.error.inj answer
      exact ⟨.bind loaded refused, restored⟩

/-! ### Lists of SoundFonts and samples -/

namespace Layout

/-- Nothing is left of a SoundFont that cannot be loaded. -/
theorem of_applyFonts_error {fonts : List String}
    (failed : applyFonts fs base fonts r = (.error e, r')) :
    ∃ done font later, fonts = done ++ font :: later ∧
      applyFonts fs base done r = (.ok (), r') ∧
        r'.loadSoundFont fs (base.resolve font) = (.error e, r') := by
  induction fonts generalizing r with
  | nil => cases (Prod.mk.inj failed).1
  | cons font later ih =>
    rw [applyFonts] at failed
    split at failed
    · rename_i refused
      obtain ⟨answer, rfl⟩ := Prod.mk.inj failed
      obtain rfl := Except.error.inj answer
      obtain rfl := Rig.eq_of_loadSoundFont_error refused
      exact ⟨[], font, later, rfl, rfl, refused⟩
    · rename_i loaded
      obtain ⟨done, next, later, rfl, applied, refused⟩ := ih failed
      refine ⟨font :: done, next, later, rfl, ?_, refused⟩
      rw [applyFonts, loaded]
      exact applied

/-- The bindings before one that fails have been applied, and nothing is left of that one. -/
theorem of_applySamples_error {bindings : List SampleBinding} (beside : r.Beside rest others)
    (tidy : r.engine.Tidy) (failed : applySamples fs base bindings r = (.error e, r')) :
    ∃ done b later samples left, bindings = done ++ b :: later ∧
      applySamples fs base done r = (.ok samples, left) ∧ b.Fails fs base left e ∧
        left.Restored r' := by
  induction bindings generalizing r with
  | nil => cases (Prod.mk.inj failed).1
  | cons b later ih =>
    have moves := b.moves_apply beside fs base
    have reached := b.reaches_apply fs base r
    rw [applySamples] at failed
    split at failed
    · rename_i refused
      obtain ⟨answer, rfl⟩ := Prod.mk.inj failed
      obtain rfl := Except.error.inj answer
      obtain ⟨fails, restored⟩ := SampleBinding.of_apply_error beside tidy refused
      exact ⟨[], b, later, [], r, rfl, rfl, fails, restored⟩
    · rename_i sample r₁ applied
      rw [applied] at moves reached
      split at failed
      · rename_i refused
        obtain ⟨answer, rfl⟩ := Prod.mk.inj failed
        obtain rfl := Except.error.inj answer
        obtain ⟨done, next, later, samples, left, rfl, before, fails, restored⟩ :=
          ih moves.beside (reached.tidy tidy) refused
        refine ⟨b :: done, next, later, sample :: samples, left, rfl, ?_, fails, restored⟩
        rw [applySamples, applied]
        simp only [before]
      · cases (Prod.mk.inj failed).1

theorem of_apply_error {l : Layout} (beside : r.Beside rest others) (tidy : r.engine.Tidy)
    (failed : l.apply fs base r = (.error e, r')) : l.StopsAt fs base r e r' := by
  have kept : (applyFonts fs base l.soundFonts r).2.Beside rest others ∧
      (applyFonts fs base l.soundFonts r).2.engine.Tidy :=
    applyFonts_induction (P := fun left => left.Beside rest others ∧ left.engine.Tidy)
      (fun r₁ path before => ⟨(Rig.moves_loadSoundFont before.1 fs path).beside,
        (Rig.reaches_loadSoundFont fs path r₁).tidy before.2⟩) base l.soundFonts ⟨beside, tidy⟩
  rw [apply] at failed
  split at failed
  · rename_i refused
    obtain ⟨answer, rfl⟩ := Prod.mk.inj failed
    obtain rfl := Except.error.inj answer
    obtain ⟨done, font, later, fonts, applied, refused⟩ := of_applyFonts_error refused
    refine .font done font later fonts ?_ refused
    rw [apply, applied]
    rfl
  · rename_i r₁ loaded
    rw [loaded] at kept
    obtain ⟨done, b, later, samples, left, bindings, applied, fails, restored⟩ :=
      of_applySamples_error kept.1 kept.2 failed
    refine .sample done b later samples left bindings ?_ fails restored
    rw [apply, loaded]
    exact applied

end Layout

/-! ### In a session -/

namespace Session

variable {s : Session} {i : Nat} {synth : Synth}

/-- Wherever stores and synthesizers take a session by themselves, a layout that fails leaves what
its parts before the failure leave, and a binding that fails leaves nothing. -/
theorem stopsAt_of_apply_error (reachable : s.Reachable Command.Mediated)
    (hs : s.synth? i = some synth) (fs : Files) (base : FilePath) :
    (∀ l e r', Layout.apply fs base l ⟨synth, s.engine⟩ = (.error e, r') →
      l.StopsAt fs base ⟨synth, s.engine⟩ e r') ∧
    ∀ b e r', SampleBinding.apply fs base b ⟨synth, s.engine⟩ = (.error e, r') →
      b.Fails fs base ⟨synth, s.engine⟩ e ∧ Rig.Restored ⟨synth, s.engine⟩ r' := by
  have beside := (reachable.shared.front_synth hs).rig_beside
  exact ⟨fun _ _ _ failed => Layout.of_apply_error beside reachable.tidy failed,
    fun _ _ _ failed => SampleBinding.of_apply_error beside reachable.tidy failed⟩

/-- The first sample of the layout shares its keys with one that was bound before, so the SoundFont
is all that is left of the layout. -/
theorem stopsAt_busyPair :
    ∃ synth, busyPair.synth? 0 = some synth ∧
      let stopped := Layout.crowded.apply ⟨"", []⟩ ⟨[]⟩ ⟨synth, busyPair.engine⟩
      let cause := Error.bind ⟨2⟩ ⟨0, 0⟩ 10 20 (.overlap ⟨1⟩ 10 20)
      stopped.1 = .error cause ∧
        Layout.crowded.StopsAt ⟨"", []⟩ ⟨[]⟩ ⟨synth, busyPair.engine⟩ cause stopped.2 ∧
          stopped.2.synth.soundFonts = [⟨[98, 46, 115, 102, 50]⟩] ∧
            stopped.2.engine.handles = busyPair.engine.handles := by
  have ⟨layout, _⟩ := stopsAt_of_apply_error (i := 0) reachable_busyPair rfl ⟨"", []⟩ ⟨[]⟩
  exact ⟨_, rfl, rfl, layout _ _ _ rfl, by decide, by decide +kernel⟩

end Session

end SampleBank
