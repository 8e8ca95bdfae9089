import SampleBank.Proofs.Engine.Mock
import SampleBank.Proofs.Engine.Ram

/-!
# Calls of either engine

A call is handed to the engine in use and has the effect that it has there. These are the lemmas on
calls that stores, synthesizers and sessions rest on; none of them mentions a kind of engine.
-/

namespace SampleBank

namespace Engine

variable {e e' : Engine} {native : SynthHandle} {sample h : SampleHandle} {p : Program}
  {fs : Files} {path : FilePath}

/-- What a call of one of the two engines answers is what that engine answers. -/
theorem exists_of_map_eq {α σ : Type} {kind : σ → Engine} {a : Except EngineError α}
    {call : Except EngineError α × σ} (h : call.map id kind = (a, e')) :
    ∃ state, call = (a, state) ∧ e' = kind state := by
  obtain ⟨answer, state⟩ := call
  obtain ⟨rfl, rfl⟩ := Prod.mk.inj h
  exact ⟨state, rfl, rfl⟩

/-- Whichever engine it is, a call that creates a synth has the effect `Engine.Created`. -/
theorem created_of_createSynth (hs : e.Sound) (h : e.createSynth = (.ok native, e')) :
    e.Created native e' := by
  cases e with
  | ram r =>
    obtain ⟨r', hr, rfl⟩ := exists_of_map_eq h
    exact ram_created hr hs
  | mock m =>
    obtain ⟨m', hm, rfl⟩ := exists_of_map_eq h
    exact mock_created hm hs

/-- Destroying a synth leaves the engine without it, and without its zones and SoundFonts. -/
theorem destroyed_destroySynth (hs : e.Sound) (native : SynthHandle) :
    e.Destroyed native (e.destroySynth native) := by
  cases e with
  | ram r => exact ram_destroyed r native hs
  | mock m => exact mock_destroyed m native hs

/-- A call that loads a sample gives out a handle that no live sample has. -/
theorem loaded_of_loadSample {rootKey : UInt8} (hs : e.Sound)
    (h_ok : e.loadSample fs path rootKey = (.ok h, e')) : e.Loaded h path rootKey e' := by
  cases e with
  | ram r =>
    obtain ⟨r', hr, rfl⟩ := exists_of_map_eq h_ok
    exact ram_loaded hr hs
  | mock m =>
    obtain ⟨m', hm, rfl⟩ := exists_of_map_eq h_ok
    exact mock_loaded hm hs

/-- Deleting a sample takes its zones from every synth. -/
theorem deleted_deleteSample (hs : e.Sound) (h : SampleHandle) :
    e.Deleted h (e.deleteSample h) := by
  cases e with
  | ram r => exact ram_deleted r hs h
  | mock m => exact mock_deleted m hs h

/-- A call that attaches a sample adds a zone at the end of its program. -/
theorem attached_of_bind {lokey hikey : UInt8} (hs : e.Sound)
    (h : e.bind native sample p lokey hikey = (.ok (), e')) :
    e.Attached native p ⟨sample, lokey, hikey⟩ e' := by
  cases e with
  | ram r =>
    obtain ⟨r', hr, rfl⟩ := exists_of_map_eq h
    exact ram_attached hs hr
  | mock m =>
    obtain ⟨m', hm, rfl⟩ := exists_of_map_eq h
    exact mock_attached hs hm

/-- A call that detaches a sample takes its zones from one program. -/
theorem detached_of_unbind (hs : e.Sound) (h : e.unbind native sample p = (.ok (), e')) :
    e.Detached native sample p e' := by
  cases e with
  | ram r =>
    obtain ⟨r', hr, rfl⟩ := exists_of_map_eq h
    exact ram_detached hs hr
  | mock m =>
    obtain ⟨m', hm, rfl⟩ := exists_of_map_eq h
    exact mock_detached hs hm

/-- A call that loads a SoundFont adds it behind the others of its synth. -/
theorem fontAdded_of_loadSoundFont {number : Nat} (hs : e.Sound)
    (h : e.loadSoundFont fs native path = (.ok number, e')) : e.FontAdded native path e' := by
  cases e with
  | ram r =>
    obtain ⟨r', hr, rfl⟩ := exists_of_map_eq h
    exact ram_fontAdded hs hr
  | mock m =>
    obtain ⟨m', hm, rfl⟩ := exists_of_map_eq h
    exact mock_fontAdded hs hm

end Engine

end SampleBank
