import SampleBank.Proofs.Session.KeyMap

/-!
# Bindings and recycled handles

A synthesizer binds only what it has loaded and lets go of a sample in its key map and in its store
at once, so what is bound is always loaded (`Synth.Dependable`). This is between the synthesizer
and itself. It does not depend on what the engine answers, and others may call that engine
directly.

A new sample may get the handle of one that was released, because the RAM engine fills the lowest
free slot. When stores and synthesizers are the only ones who call the engine, nothing is left that
names the old sample: whatever is bound is held, what is held is live, every zone plays a live
sample, and a new handle is not that of a live sample (`Engine.SharedBy.unbound`). So the handle is
`Session.Unbound` at the moment when it is given out, also to a layout that is being applied.
-/

namespace SampleBank

/-- What a synthesizer has bound it has loaded, so that a lookup is up to its key map alone. -/
structure Synth.Dependable (s : Synth) : Prop where
  held : ∀ p, ∀ range ∈ s.router.ranges p, range.sample ∈ s.store.handles
  resolve : s.phase = .open → ∀ (p : Program) (key : UInt8), p.Valid → key ≤ maxKey →
    ∃ answer, s.resolve p key = .ok answer ∧
      answer.map (·.handle) = s.router.resolve p key ∧
        (answer.isSome = true ↔ ∃ range ∈ s.router.ranges p, range.covers key = true)

theorem Synth.Coherent.dependable {s : Synth} (c : s.Coherent) : s.Dependable where
  held := c.held
  resolve opened p key valid hk := by
    obtain ⟨answer, answered, same⟩ := c.resolve opened valid hk
    refine ⟨answer, answered, same, ?_⟩
    rw [← Router.isSome_resolve_iff c.inOrder, ← same, Option.isSome_map]

/-- A sample that an operation of a synthesizer loads, and the rig right after that. -/
inductive SynthCommand.Loads (fs : Files) (r : Rig Engine) :
    SynthCommand → Sample → Rig Engine → Prop
  | load {path : FilePath} {rootKey : UInt8} {sample : Sample} {r' : Rig Engine} :
    r.loadSample fs path rootKey = (.ok sample, r') → Loads fs r (.load path rootKey) sample r'
  | binding {b : SampleBinding} {base : FilePath} {sample : Sample} {r' : Rig Engine} :
    r.loadSample fs (base.resolve b.file) b.rootKey = (.ok sample, r') →
      Loads fs r (.applyBinding b base) sample r'
  /-- The SoundFonts and the samples before it have been applied by then. -/
  | layout {fonts : List String} {earlier later : List SampleBinding} {b : SampleBinding}
    {base : FilePath} {sample : Sample} {applied : List Sample} {between r' : Rig Engine} :
    Layout.apply fs base ⟨fonts, earlier⟩ r = (.ok applied, between) →
      between.loadSample fs (base.resolve b.file) b.rootKey = (.ok sample, r') →
        Loads fs r (.apply ⟨fonts, earlier ++ b :: later⟩ base) sample r'

namespace Session

/-- A sample that a command loads into a store or a synthesizer, and the session right after it. -/
inductive Loads (fs : Files) (s : Session) : Command → Sample → Session → Prop
  | store {i : Nat} {store left : Store} {path : FilePath} {rootKey : UInt8} {sample : Sample}
    {e : Engine} : s.store? i = some store →
      store.load fs path rootKey s.engine = (.ok sample, left, e) →
        Loads fs s (.store i (.load path rootKey)) sample
          { s with engine := e, stores := s.stores.set i (some left) }
  | synth {i : Nat} {synth : Synth} {command : SynthCommand} {sample : Sample} {r : Rig Engine} :
    s.synth? i = some synth → command.Loads fs ⟨synth, s.engine⟩ sample r →
      Loads fs s (.synth i command) sample
        { s with engine := r.engine, synths := s.synths.set i (some r.synth) }

/-- A handle that no synthesizer has bound and that no zone of the engine plays. -/
structure Unbound (s : Session) (h : SampleHandle) : Prop where
  ranges : ∀ i synth, s.synth? i = some synth →
    ∀ p, ∀ range ∈ synth.router.ranges p, range.sample ≠ h
  zones : ∀ native p, ∀ z ∈ s.engine.zones native p, z.sample ≠ h

end Session

/-! ### A new handle is bound nowhere -/

section Fresh

variable {stores : List Store} {synths : List Synth} {e e' : Engine} {h : SampleHandle}
  {path : FilePath} {rootKey : UInt8} {fs : Files}

/-- What is bound and what plays is live, which a new handle was not. -/
theorem Engine.SharedBy.unbound (sh : e.SharedBy stores synths)
    (loaded : e.Loaded h path rootKey e') :
    (∀ synth ∈ synths, ∀ p, ∀ range ∈ synth.router.ranges p, range.sample ≠ h) ∧
      ∀ native p, ∀ z ∈ e'.zones native p, z.sample ≠ h := by
  refine ⟨fun synth hs p range hr eq => ?_, fun native p z hz eq => ?_⟩
  · have held := (sh.mirrored synth hs).loaded p range hr
    exact loaded.fresh (eq ▸ sh.held.mem_iff.1 (synth_handles_subset_heldBy hs held))
  · rw [loaded.zones] at hz
    exact loaded.fresh (eq ▸ sh.sound.zone_sample hz)

/-- What comes before a load in an operation leaves the others alone. -/
theorem SynthCommand.Loads.moves {rest : List SampleHandle} {others : List SynthHandle}
    {r r' : Rig Engine} {command : SynthCommand} {sample : Sample}
    (loads : command.Loads fs r sample r') (b : r.Beside rest others) :
    ∃ between path rootKey, Rig.Moves rest others [] r between ∧
      between.loadSample fs path rootKey = (.ok sample, r') := by
  cases loads with
  | load loaded => exact ⟨r, _, _, .refl b [], loaded⟩
  | binding loaded => exact ⟨r, _, _, .refl b [], loaded⟩
  | @layout fonts earlier _ _ base _ _ _ _ applied loaded =>
    have moves := Layout.moves_apply b fs base ⟨fonts, earlier⟩
    rw [applied] at moves
    exact ⟨_, _, _, moves, loaded⟩

end Fresh

namespace Session

variable {s s' : Session} {fs : Files} {c : Command} {sample : Sample}

theorem Loads.unbound (loads : s.Loads fs c sample s') (sh : s.Shared) :
    s'.Unbound sample.handle := by
  cases loads with
  | store hs loaded =>
    obtain ⟨agreed, -, -⟩ := Store.eq_of_load_ok loaded
    have ⟨ranges, zones⟩ := Engine.SharedBy.unbound sh
      (Engine.loaded_of_loadSample sh.sound agreed)
    exact ⟨fun i synth here =>
      ranges synth (mem_filterMap_of_getElem? (getElem?_of_synth? here)), zones⟩
  | @synth i synth command sample r hs loads =>
    have front := sh.front_synth hs
    obtain ⟨between, path, rootKey, moves, loaded⟩ := loads.moves front.rig_beside
    have sh' := front.of_rig_moves moves
    obtain ⟨native, e', -, agreed, -, rfl⟩ := Rig.of_loadSample_ok loaded
    have ⟨ranges, zones⟩ := sh'.unbound (Engine.loaded_of_loadSample sh'.sound agreed)
    refine ⟨fun j other here => ?_, zones⟩
    have mem := mem_filterMap_of_getElem? (getElem?_of_synth? here)
    -- the key map of the one that has loaded is still the one it had before
    rcases List.mem_cons.1 ((filterMap_set_perm (getElem?_of_synth? hs) _).mem_iff.1 mem) with
      rfl | other
    · exact ranges between.synth List.mem_cons_self
    · exact ranges _ (List.mem_cons_of_mem _ other)

/-- A store that answers with a sample has loaded it. -/
theorem loads_of_step_store {i : Nat} {path : FilePath} {rootKey : UInt8}
    (answered : (s.step fs (.store i (.load path rootKey))).1 = .sample sample) :
    s.Loads fs (.store i (.load path rootKey)) sample
      (s.step fs (.store i (.load path rootKey))).2 := by
  rw [step] at answered ⊢
  cases hs : s.store? i with
  | none =>
    rw [hs] at answered
    cases answered
  | some store =>
    rw [hs] at answered
    rcases loaded : store.load fs path rootKey s.engine with ⟨answer, left, e⟩
    simp only [runStore, loaded] at answered ⊢
    cases answer with
    | error cause => cases answered
    | ok other =>
      obtain rfl := Outcome.sample.inj answered
      exact .store hs loaded

/-- So has a synthesizer. -/
theorem loads_of_step_synth {i : Nat} {path : FilePath} {rootKey : UInt8}
    (answered : (s.step fs (.synth i (.load path rootKey))).1 = .sample sample) :
    s.Loads fs (.synth i (.load path rootKey)) sample
      (s.step fs (.synth i (.load path rootKey))).2 := by
  rw [step] at answered ⊢
  cases hs : s.synth? i with
  | none =>
    rw [hs] at answered
    cases answered
  | some synth =>
    rw [hs] at answered
    rcases loaded : Rig.loadSample fs path rootKey ⟨synth, s.engine⟩ with ⟨answer, r⟩
    simp only [runSynth, still, loaded] at answered ⊢
    cases answer with
    | error cause => cases answered
    | ok other =>
      obtain rfl := Outcome.sample.inj answered
      exact .synth hs (.load loaded)

/-- Whatever happens in a session, also at its engine, what its synthesizers have bound they have
loaded. And where stores and synthesizers alone call the engine, a handle that is given out is bound
nowhere, whether it has been used before or not. -/
theorem dependable_and_unbound_of_loads :
    (∀ (allowed : Command → Prop) (s : Session), s.Reachable allowed → ∀ i synth,
      s.synth? i = some synth → synth.Dependable) ∧
    ∀ s : Session, s.Reachable Command.Mediated → ∀ fs c sample s', s.Loads fs c sample s' →
      s'.Unbound sample.handle :=
  ⟨fun _ _ reachable _ _ hs => (reachable.coherent hs).dependable,
    fun _ reachable _ _ _ _ loads => loads.unbound reachable.shared⟩

open Engine (soundFiles wavePath)

/-- A synthesizer has bound a sample in the lowest slot and has released it again. -/
def vacated : Session :=
  run soundFiles (.new (.ram (.new 2 44100)))
    [.newStore, .startedSynth .reject, .synth 0 (.load wavePath 60),
      .synth 0 (.bind ⟨0, 0⟩ 10 20 ⟨0⟩), .synth 0 (.release ⟨0⟩)]

/-- Someone deletes the synthesizer's sample at the engine, and a lookup still finds it in the
store. Whoever loads the file next gets the handle that was bound before. -/
theorem unbound_vacated :
    (∃ synth, (busyPair.step ⟨"", []⟩ (.engine (.deleteSample ⟨1⟩))).2.synth? 0 = some synth ∧
      ∃ answer, synth.resolve ⟨0, 0⟩ 15 = .ok answer ∧ answer.isSome = true) ∧
    (∃ s', vacated.Loads soundFiles (.synth 0 (.load wavePath 61)) ⟨⟨0⟩, wavePath, 61⟩ s' ∧
      s'.Unbound ⟨0⟩) ∧
    ∃ s', vacated.Loads soundFiles (.store 0 (.load wavePath 61)) ⟨⟨0⟩, wavePath, 61⟩ s' ∧
      s'.Unbound ⟨0⟩ := by
  have ⟨dependable, unbound⟩ := dependable_and_unbound_of_loads
  have reachable : vacated.Reachable Command.Mediated := (Reachable.ram 2 44100).run _ (by decide)
  refine ⟨?_, ?_, ?_⟩
  · have alone : busyPair.Reachable fun _ => True :=
      (Reachable.mock "shared").run _ fun _ _ => trivial
    have called := alone.step (c := .engine (.deleteSample ⟨1⟩)) ⟨"", []⟩ trivial
    obtain ⟨answer, answered, -, hit⟩ := (dependable _ _ called 0 _ rfl).resolve (by decide) ⟨0, 0⟩
      15 (by decide) (by decide)
    exact ⟨_, rfl, answer, answered, hit.2 (by decide)⟩
  · have loads : vacated.Loads soundFiles (.synth 0 (.load wavePath 61)) ⟨⟨0⟩, wavePath, 61⟩
        (vacated.step soundFiles (.synth 0 (.load wavePath 61))).2 :=
      loads_of_step_synth (by decide +kernel)
    exact ⟨_, loads, unbound _ reachable _ _ _ _ loads⟩
  · have loads : vacated.Loads soundFiles (.store 0 (.load wavePath 61)) ⟨⟨0⟩, wavePath, 61⟩
        (vacated.step soundFiles (.store 0 (.load wavePath 61))).2 :=
      loads_of_step_store (by decide +kernel)
    exact ⟨_, loads, unbound _ reachable _ _ _ _ loads⟩

end Session

end SampleBank
