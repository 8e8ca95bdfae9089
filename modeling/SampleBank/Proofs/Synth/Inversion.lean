import SampleBank.Proofs.Router.Contents
import SampleBank.Proofs.Store.Sharing
import SampleBank.Synth

/-!
# What an operation has done

An operation of a synthesizer looks at the phase, checks its arguments, asks the engine at most once
and changes the synthesizer only after the engine has agreed. Here that is read backwards, from an
answer to what must have happened: `Rig.of_bind_ok` and its companions say what was checked, what
the engine was asked and what has changed, and `Rig.of_bind_error` and its companions that nothing
has changed but what an engine may have done to itself while it refused. What an engine does is left
open, so all of this holds of any engine.

A synthesizer plays on a synth when it is open and has its handle (`Synth.PlaysOn`). Phase and
handle are kept separately, and that they agree (`Synth.HandleAgrees`) is a property of the
synthesizers that come about, not of all.
-/

namespace SampleBank

/-- A key range as an engine keeps it. -/
def KeyRange.zone (range : KeyRange) : Zone := ⟨range.sample, range.lokey, range.hikey⟩

/-! ### Phase and handle -/

namespace Synth

/-- The synthesizer is open, and `native` is the engine's synth that it plays on. -/
def PlaysOn (s : Synth) (native : SynthHandle) : Prop := s.phase = .open ∧ s.handle? = some native

/-- A synthesizer has a synth at the engine exactly while it is open. -/
def HandleAgrees (s : Synth) : Prop := s.handle?.isSome = true ↔ s.phase = .open

variable {s : Synth} {native other : SynthHandle}

/-- A synthesizer that plays on a synth is open. -/
theorem PlaysOn.opened (plays : s.PlaysOn native) : s.phase = .open := plays.1

theorem PlaysOn.handle? (plays : s.PlaysOn native) : s.handle? = some native := plays.2

/-- A synthesizer plays on one synth at a time. -/
theorem PlaysOn.eq (plays : s.PlaysOn native) (h : s.PlaysOn other) : native = other :=
  Option.some.inj (plays.2.symm.trans h.2)

/-- While it plays on a synth, a synthesizer is not idle. -/
theorem PlaysOn.not_idle (plays : s.PlaysOn native) : s.handle? ≠ none := by
  rw [plays.handle?]
  exact Option.some_ne_none native

/-- Without a synth at the engine there is none to play on. -/
theorem not_playsOn (idle : s.handle? = none) (native : SynthHandle) : ¬s.PlaysOn native :=
  fun plays => plays.not_idle idle

/-- An operation that needs the engine's synth gets it exactly from a synthesizer that plays on
it. -/
theorem native_eq_ok_iff : s.native = .ok native ↔ s.PlaysOn native := by
  rw [Synth.native]
  split
  · rename_i other opened handle
    constructor
    · intro found
      exact ⟨opened, handle.trans (congrArg some (Except.ok.inj found))⟩
    · intro plays
      rw [Option.some.inj (handle.symm.trans plays.handle?)]
  · rename_i not_both
    exact ⟨nofun, fun plays => absurd plays.handle? (not_both native plays.opened)⟩

/-- A synthesizer that plays on nothing refuses with its phase. -/
theorem native_eq_error (silent : ∀ native, ¬s.PlaysOn native) :
    s.native = .error (.invalidState s.phase) := by
  rw [Synth.native]
  split
  · rename_i native opened handle
    exact absurd ⟨opened, handle⟩ (silent native)
  · rfl

/-- Where phase and handle agree, a synthesizer plays on a synth, or has none and is not open. -/
theorem HandleAgrees.plays_or_idle (agree : s.HandleAgrees) :
    (∃ native, s.PlaysOn native) ∨ s.handle? = none ∧ s.phase ≠ .open := by
  cases handle : s.handle? with
  | none =>
    refine .inr ⟨rfl, fun opened => ?_⟩
    have present := agree.2 opened
    rw [handle] at present
    cases present
  | some native => exact .inl ⟨native, agree.1 (by rw [handle]; rfl), handle⟩

/-- An open synthesizer plays on a synth. -/
theorem HandleAgrees.exists_playsOn (agree : s.HandleAgrees) (opened : s.phase = .open) :
    ∃ native, s.PlaysOn native :=
  agree.plays_or_idle.resolve_right fun idle => idle.2 opened

/-- A synthesizer that is not open has no synth. -/
theorem HandleAgrees.handle?_eq_none (agree : s.HandleAgrees) (unopened : s.phase ≠ .open) :
    s.handle? = none := by
  rcases agree.plays_or_idle with ⟨native, plays⟩ | idle
  · exact absurd plays.opened unopened
  · exact idle.1

/-- A synthesizer with a synth plays on it. -/
theorem HandleAgrees.playsOn (agree : s.HandleAgrees) (handle : s.handle? = some native) :
    s.PlaysOn native :=
  ⟨agree.1 (by rw [handle]; rfl), handle⟩

/-- In an open synthesizer a lookup goes through the key map and then through the store. -/
theorem PlaysOn.resolve_eq (plays : s.PlaysOn native) {p : Program} {key : UInt8} (valid : p.Valid)
    (hk : key ≤ maxKey) : s.resolve p key = .ok ((s.router.resolve p key).bind s.store.lookup) := by
  rw [resolve, native_eq_ok_iff.2 plays]
  simp only [checkProgram_eq_ok_iff.2 valid, checkKey, hk, if_true]

end Synth

/-! ### One operation at a time -/

namespace Rig

variable {E : Type} [SampleEngine E] {r r' : Rig E} {native : SynthHandle} {h : SampleHandle}
  {p : Program} {fs : Files} {path : FilePath} {lokey hikey rootKey : UInt8} {e : Error}

/-- A synthesizer that has started was new, and has the synth that the engine created for it. -/
theorem of_start_ok (opened : r.start = (.ok (), r')) :
    r.synth.phase = .uninitialized ∧
      ∃ native e', SampleEngine.createSynth r.engine = (.ok native, e') ∧
        r' = ⟨{ r.synth with handle? := some native, phase := .open }, e'⟩ := by
  rw [start] at opened
  split at opened
  · rename_i new
    split at opened
    · cases (Prod.mk.inj opened).1
    · rename_i native e' agreed
      exact ⟨new, native, e', agreed, (Prod.mk.inj opened).2.symm⟩
  · cases (Prod.mk.inj opened).1

/-- A synthesizer that has not started is as it was, and so is the engine unless it was asked. -/
theorem of_start_error (failed : r.start = (.error e, r')) :
    r' = r ∨ ∃ cause e', SampleEngine.createSynth r.engine = (.error cause, e') ∧
      r' = ⟨r.synth, e'⟩ := by
  rw [start] at failed
  split at failed
  · split at failed
    · rename_i cause e' refused
      exact .inr ⟨cause, e', refused, (Prod.mk.inj failed).2.symm⟩
    · cases (Prod.mk.inj failed).1
  · exact .inl (Prod.mk.inj failed).2.symm

/-- A sample that was loaded is recorded under the handle that the engine gave it. -/
theorem of_loadSample_ok {sample : Sample}
    (loaded : r.loadSample fs path rootKey = (.ok sample, r')) :
    ∃ native e', r.synth.PlaysOn native ∧
      SampleEngine.loadSample fs path rootKey r.engine = (.ok sample.handle, e') ∧
        sample = ⟨sample.handle, path, rootKey⟩ ∧
          r' = ⟨{ r.synth with
            store := ⟨r.synth.store.samples.insert sample.handle sample⟩ }, e'⟩ := by
  rw [loadSample] at loaded
  split at loaded
  · cases (Prod.mk.inj loaded).1
  · rename_i native found
    rcases stored : r.synth.store.load fs path rootKey r.engine with ⟨answer, store, e'⟩
    rw [stored] at loaded
    obtain ⟨rfl, rfl⟩ := Prod.mk.inj loaded
    obtain ⟨agreed, recorded, rfl⟩ := Store.eq_of_load_ok stored
    exact ⟨native, e', Synth.native_eq_ok_iff.1 found, agreed, recorded, rfl⟩

/-- A valid root key is all that an open synthesizer asks of a sample before the engine agrees. -/
theorem loadSample_eq_ok {e' : E} (plays : r.synth.PlaysOn native) (valid : rootKey ≤ maxKey)
    (agreed : SampleEngine.loadSample fs path rootKey r.engine = (.ok h, e')) :
    r.loadSample fs path rootKey = (.ok ⟨h, path, rootKey⟩, ⟨{ r.synth with
      store := ⟨r.synth.store.samples.insert h ⟨h, path, rootKey⟩⟩ }, e'⟩) := by
  rw [loadSample, Synth.native_eq_ok_iff.2 plays, Store.load, checkKey, if_pos valid]
  simp only [agreed]

/-- A root key that is no key is refused before the engine is asked. -/
theorem loadSample_of_invalid (plays : r.synth.PlaysOn native) (invalid : ¬rootKey ≤ maxKey) :
    r.loadSample fs path rootKey =
      (.error (.invalidArgument (.keyTooHigh .rootKey rootKey)), r) := by
  rw [loadSample, Synth.native_eq_ok_iff.2 plays, Store.load, checkKey, if_neg invalid]

/-- A load that fails records nothing. -/
theorem of_loadSample_error (failed : r.loadSample fs path rootKey = (.error e, r')) :
    r' = r ∨ ∃ cause e', SampleEngine.loadSample fs path rootKey r.engine = (.error cause, e') ∧
      r' = ⟨r.synth, e'⟩ := by
  rw [loadSample] at failed
  split at failed
  · exact .inl (Prod.mk.inj failed).2.symm
  · rcases stored : r.synth.store.load fs path rootKey r.engine with ⟨answer, store, e'⟩
    rw [stored] at failed
    obtain ⟨rfl, rfl⟩ := Prod.mk.inj failed
    obtain ⟨rfl, rfl | ⟨cause, refused⟩⟩ := Store.of_load_error stored
    · exact .inl rfl
    · exact .inr ⟨cause, e', refused, rfl⟩

/-- A range that was bound is the one asked for, of a sample that is held, and passed every
check. -/
theorem of_bind_ok {range : KeyRange} (bound : r.bind p lokey hikey h = (.ok range, r')) :
    ∃ native e', r.synth.PlaysOn native ∧ range.zone = ⟨h, lokey, hikey⟩ ∧
      h ∈ r.synth.store.handles ∧ r.synth.router.check p range = .ok () ∧
        SampleEngine.bind native h p lokey hikey r.engine = (.ok (), e') ∧
          r' = ⟨{ r.synth with router := r.synth.router.insert p range }, e'⟩ := by
  rw [bind] at bound
  split at bound
  · cases (Prod.mk.inj bound).1
  · rename_i native found
    split at bound
    · cases (Prod.mk.inj bound).1
    · rename_i made made_ok
      split at bound
      · cases (Prod.mk.inj bound).1
      · split at bound
        · rename_i held
          split at bound
          · cases (Prod.mk.inj bound).1
          · rename_i passed
            split at bound
            · cases (Prod.mk.inj bound).1
            · rename_i e' agreed
              obtain ⟨answer, rfl⟩ := Prod.mk.inj bound
              obtain rfl := Except.ok.inj answer
              obtain ⟨h_lokey, h_hikey, h_sample⟩ := KeyRange.make?_eq_ok_iff.1 made_ok
              have zone : made.zone = ⟨h, lokey, hikey⟩ := by
                rw [KeyRange.zone, h_lokey, h_hikey, h_sample]
              exact ⟨native, e', Synth.native_eq_ok_iff.1 found, zone,
                Store.mem_handles_iff.2 held, passed, agreed, rfl⟩
        · cases (Prod.mk.inj bound).1

/-- A bind that fails adds no range. -/
theorem of_bind_error (failed : r.bind p lokey hikey h = (.error e, r')) :
    r' = r ∨ ∃ native cause e',
      SampleEngine.bind native h p lokey hikey r.engine = (.error cause, e') ∧
        r' = ⟨r.synth, e'⟩ := by
  rw [bind] at failed
  split at failed
  · exact .inl (Prod.mk.inj failed).2.symm
  · split at failed
    · exact .inl (Prod.mk.inj failed).2.symm
    · split at failed
      · exact .inl (Prod.mk.inj failed).2.symm
      · split at failed
        · split at failed
          · exact .inl (Prod.mk.inj failed).2.symm
          · split at failed
            · rename_i cause e' refused
              exact .inr ⟨_, cause, e', refused, (Prod.mk.inj failed).2.symm⟩
            · cases (Prod.mk.inj failed).1
        · exact .inl (Prod.mk.inj failed).2.symm

/-- A sample that was unbound was bound in the program, and the engine agreed. -/
theorem of_unbind_ok (unbound : r.unbind p h = (.ok (), r')) :
    ∃ native e', r.synth.PlaysOn native ∧ r.synth.router.isBound p h = true ∧
      SampleEngine.unbind native h p r.engine = (.ok (), e') ∧
        r' = ⟨{ r.synth with router := r.synth.router.remove p h }, e'⟩ := by
  rw [unbind] at unbound
  split at unbound
  · cases (Prod.mk.inj unbound).1
  · rename_i native found
    split at unbound
    · cases (Prod.mk.inj unbound).1
    · split at unbound
      · rename_i is_bound
        split at unbound
        · cases (Prod.mk.inj unbound).1
        · rename_i e' agreed
          rw [Router.unbind?_eq_some is_bound] at unbound
          exact ⟨native, e', Synth.native_eq_ok_iff.1 found, is_bound, agreed,
            (Prod.mk.inj unbound).2.symm⟩
      · cases (Prod.mk.inj unbound).1

/-- Once the engine has let go of a bound sample, the key map does too. -/
theorem unbind_eq_ok {engine : E} (found : r.synth.native = .ok native) (valid : p.Valid)
    (bound : r.synth.router.isBound p h = true)
    (agreed : SampleEngine.unbind native h p r.engine = (.ok (), engine)) :
    r.unbind p h =
      (.ok (), ⟨{ r.synth with router := r.synth.router.remove p h }, engine⟩) := by
  rw [unbind, found]
  simp only [checkProgram_eq_ok_iff.2 valid, bound, if_true, agreed, Router.unbind?_eq_some bound]

/-- An unbind that fails removes no range. -/
theorem of_unbind_error (failed : r.unbind p h = (.error e, r')) :
    r' = r ∨ ∃ native cause e', SampleEngine.unbind native h p r.engine = (.error cause, e') ∧
      r' = ⟨r.synth, e'⟩ := by
  rw [unbind] at failed
  split at failed
  · exact .inl (Prod.mk.inj failed).2.symm
  · split at failed
    · exact .inl (Prod.mk.inj failed).2.symm
    · split at failed
      · rename_i bound
        split at failed
        · rename_i cause e' refused
          exact .inr ⟨_, cause, e', refused, (Prod.mk.inj failed).2.symm⟩
        -- the engine has agreed, and the key map finds the range that was looked up
        · rw [Router.unbind?_eq_some bound] at failed
          cases (Prod.mk.inj failed).1
      · exact .inl (Prod.mk.inj failed).2.symm

/-- A SoundFont that was loaded is recorded behind the others. -/
theorem of_loadSoundFont_ok {number : Nat}
    (loaded : r.loadSoundFont fs path = (.ok number, r')) :
    ∃ native e', r.synth.PlaysOn native ∧
      SampleEngine.loadSoundFont fs native path r.engine = (.ok number, e') ∧
        r' = ⟨{ r.synth with soundFonts := r.synth.soundFonts ++ [path] }, e'⟩ := by
  rw [loadSoundFont] at loaded
  split at loaded
  · cases (Prod.mk.inj loaded).1
  · rename_i native found
    split at loaded
    · cases (Prod.mk.inj loaded).1
    · rename_i e' agreed
      obtain ⟨answer, rfl⟩ := Prod.mk.inj loaded
      obtain rfl := Except.ok.inj answer
      exact ⟨native, e', Synth.native_eq_ok_iff.1 found, agreed, rfl⟩

/-- An open synthesizer records every SoundFont that the engine takes. -/
theorem loadSoundFont_eq_ok {number : Nat} {e' : E} (plays : r.synth.PlaysOn native)
    (agreed : SampleEngine.loadSoundFont fs native path r.engine = (.ok number, e')) :
    r.loadSoundFont fs path =
      (.ok number, ⟨{ r.synth with soundFonts := r.synth.soundFonts ++ [path] }, e'⟩) := by
  rw [loadSoundFont, Synth.native_eq_ok_iff.2 plays]
  simp only [agreed]

/-- A SoundFont that is refused is not recorded. -/
theorem of_loadSoundFont_error (failed : r.loadSoundFont fs path = (.error e, r')) :
    r' = r ∨ ∃ native cause e',
      SampleEngine.loadSoundFont fs native path r.engine = (.error cause, e') ∧
        r' = ⟨r.synth, e'⟩ := by
  rw [loadSoundFont] at failed
  split at failed
  · exact .inl (Prod.mk.inj failed).2.symm
  · split at failed
    · rename_i cause e' refused
      exact .inr ⟨_, cause, e', refused, (Prod.mk.inj failed).2.symm⟩
    · cases (Prod.mk.inj failed).1

/-! ### Releasing and closing -/

/-- The engine after it was asked to let go of a sample wherever the key map has it. -/
def detached (r : Rig E) (native : SynthHandle) (h : SampleHandle) : E :=
  detach native ((r.synth.router.boundIn h).map (h, ·)) r.engine

/-- An open synthesizer detaches the sample, has its store release it, and forgets its ranges. -/
theorem releaseSample_eq (plays : r.synth.PlaysOn native) :
    r.releaseSample h = (.ok (), ⟨{ r.synth with
      store := (r.synth.store.release h (r.detached native h)).1
      router := r.synth.router.unbindAll h },
      (r.synth.store.release h (r.detached native h)).2⟩) := by
  rw [releaseSample, Synth.native_eq_ok_iff.2 plays]
  rfl

/-- A synthesizer that plays on nothing has nothing to release. -/
theorem releaseSample_eq_error (silent : ∀ native, ¬r.synth.PlaysOn native) :
    r.releaseSample h = (.error (.invalidState r.synth.phase), r) := by
  rw [releaseSample, Synth.native_eq_error silent]

/-- An open synthesizer detaches everything, releases everything and destroys its synth, in this
order. -/
theorem close_eq (plays : r.synth.PlaysOn native) :
    r.close = ⟨⟨.closed, none,
      (r.synth.store.releaseAll (detach native (attached r.synth) r.engine)).1,
      r.synth.router.clear, []⟩,
      SampleEngine.destroySynth native
        (r.synth.store.releaseAll (detach native (attached r.synth) r.engine)).2⟩ := by
  rw [close, plays.opened, plays.handle?]

/-- A synthesizer that plays on nothing is closed without the engine. -/
theorem close_eq_of_silent (silent : ∀ native, ¬r.synth.PlaysOn native) :
    r.close = { r with synth.phase := .closed } := by
  rw [close]
  split
  · rename_i native opened handle
    exact absurd ⟨opened, handle⟩ (silent native)
  · rename_i closed
    rw [← closed]
  · rfl

end Rig

end SampleBank
