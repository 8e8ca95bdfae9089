import SampleBank.Store

/-!
# Synthesizers

A synthesizer ties one synth of an engine to a store of samples and a key map. It is created
uninitialized, opened once and closed once; outside of that it refuses every operation with its
phase (`Synth.native`). The phase and the handle of the engine's synth are kept side by side.
Engines are shared, so an operation works on a `Rig`, a synthesizer and the engine it plays on,
and answers with the rig it leaves behind, whether it succeeds or fails.

The key map is changed last: a range is bound at the engine before the map takes it, and a
binding stays in the map until the engine has let go of it.
-/

namespace SampleBank

/-- A synthesizer. -/
structure Synth where
  /-- Where the synthesizer stands in its life. -/
  phase : Phase
  /-- The engine's synth, while there is one. -/
  handle? : Option SynthHandle
  store : Store
  router : Router
  soundFonts : List FilePath
deriving DecidableEq

namespace Synth

/-- An uninitialized synthesizer. -/
def new (policy : OverlapPolicy) : Synth := ⟨.uninitialized, none, .empty, .empty policy, []⟩

/-- The engine's synth; a synthesizer that is not open refuses, and so would one without a synth. -/
def native (s : Synth) : Except Error SynthHandle :=
  match s.phase, s.handle? with
  | .open, some native => .ok native
  | phase, _ => .error (.invalidState phase)

/-- A loaded sample. -/
def lookup (s : Synth) (h : SampleHandle) : Except Error (Option Sample) :=
  s.native.map fun _ => s.store.lookup h

/-- All loaded samples, by handle. -/
def samples (s : Synth) : Except Error (List Sample) :=
  s.native.map fun _ => s.store.handles.filterMap s.store.lookup

/-- The sample that plays on a key of a program. -/
def resolve (s : Synth) (p : Program) (key : UInt8) : Except Error (Option Sample) :=
  match s.native with
  | .error e => .error e
  | .ok _ =>
    match checkProgram p with
    | .error cause => .error (.invalidArgument cause)
    | .ok () =>
      match checkKey .key key with
      | .error cause => .error (.invalidArgument cause)
      | .ok () => .ok ((s.router.resolve p key).bind s.store.lookup)

/-- All bindings, by program and keys. -/
def bindings (s : Synth) : Except Error (List (Program × KeyRange)) :=
  s.native.map fun _ => s.router.bindings

/-- The SoundFonts loaded so far. -/
def loadedFonts (s : Synth) : Except Error (List FilePath) :=
  s.native.map fun _ => s.soundFonts

/-- The name of a phase as a synthesizer describes itself. -/
def phaseName : Phase → String
  | .uninitialized => "Uninitialized"
  | .open => "Open"
  | .closed => "Closed"

/-- A synthesizer by its engine, its phase and its numbers of samples and bindings. -/
def describe {E : Type} [SampleEngine E] (s : Synth) (e : E) : String :=
  "Synthesizer \x7b engine: " ++ Quoted.encode (SampleEngine.text e) ++
    s!", state: {phaseName s.phase}, samples: {s.store.size}, " ++
    s!"bindings: {s.router.size} \x7d"

end Synth

/-- A synthesizer and the engine that it plays on. -/
structure Rig (E : Type) where
  synth : Synth
  engine : E
deriving DecidableEq

namespace Rig

variable {E : Type} [SampleEngine E]

/-- Creates the engine's synth. Only an uninitialized synthesizer can be opened. -/
def start (r : Rig E) : Except Error Unit × Rig E :=
  if r.synth.phase = .uninitialized then
    match SampleEngine.createSynth r.engine with
    | (.error cause, engine) => (.error (.init cause), ⟨r.synth, engine⟩)
    | (.ok native, engine) =>
      (.ok (), ⟨{ r.synth with handle? := some native, phase := .open }, engine⟩)
  else (.error (.invalidState r.synth.phase), r)

/-- Detaches samples from programs at the engine, one after the other. What the engine refuses is
passed over. -/
def detach (native : SynthHandle) (attached : List (SampleHandle × Program)) (e : E) : E :=
  attached.foldl (fun e (h, p) => (SampleEngine.unbind native h p e).2) e

/-- Which samples are bound in which programs, by handle and program. -/
def attached (s : Synth) : List (SampleHandle × Program) :=
  let all := s.router.bindings.map fun (p, range) => (range.sample, p)
  (all.mergeSort fun a b => a.1.id < b.1.id ∨
    (a.1 = b.1 ∧ Numbered.number a.2 ≤ Numbered.number b.2)).eraseReps

/-- Closes the synthesizer: every binding, then every sample, then the engine's synth. Closing again
does nothing. -/
def close (r : Rig E) : Rig E :=
  match r.synth.phase, r.synth.handle? with
  | .open, some native =>
    let engine := detach native (attached r.synth) r.engine
    let (store, engine) := r.synth.store.releaseAll engine
    ⟨⟨.closed, none, store, r.synth.router.clear, []⟩, SampleEngine.destroySynth native engine⟩
  | .closed, _ => r
  | _, _ => { r with synth.phase := .closed }

/-- Drops the synthesizer: it is closed, and then its store is dropped, which releases what it still
owns. -/
def drop (r : Rig E) : E := (r.close.synth.store.releaseAll r.close.engine).2

/-- Loads a sample into the synthesizer's store. -/
def loadSample (fs : Files) (path : FilePath) (rootKey : UInt8) (r : Rig E) :
    Except Error Sample × Rig E :=
  match r.synth.native with
  | .error e => (.error e, r)
  | .ok _ =>
    let (answer, store, engine) := r.synth.store.load fs path rootKey r.engine
    (answer, ⟨{ r.synth with store := store }, engine⟩)

/-- Releases a sample after detaching it everywhere. A sample that is not loaded is ignored. -/
def releaseSample (h : SampleHandle) (r : Rig E) : Except Error Unit × Rig E :=
  match r.synth.native with
  | .error e => (.error e, r)
  | .ok native =>
    let engine := detach native ((r.synth.router.boundIn h).map (h, ·)) r.engine
    let (store, engine) := r.synth.store.release h engine
    (.ok (),
      ⟨{ r.synth with store := store, router := r.synth.router.unbindAll h }, engine⟩)

/-- Attaches a loaded sample to the keys from `lokey` to `hikey` of a program. Keys, program, sample
and key map are checked in this order before the engine is asked. -/
def bind (p : Program) (lokey hikey : UInt8) (h : SampleHandle) (r : Rig E) :
    Except Error KeyRange × Rig E :=
  match r.synth.native with
  | .error e => (.error e, r)
  | .ok native =>
    match KeyRange.make? lokey hikey h with
    | .error cause => (.error (.invalidArgument cause), r)
    | .ok range =>
      match checkProgram p with
      | .error cause => (.error (.invalidArgument cause), r)
      | .ok () =>
        if r.synth.store.contains h then
          match r.synth.router.check p range with
          | .error e => (.error (.ofRouter e), r)
          | .ok () =>
            match SampleEngine.bind native h p lokey hikey r.engine with
            | (.error cause, engine) =>
              (.error (.bind h p lokey hikey (.engine cause)), ⟨r.synth, engine⟩)
            | (.ok (), engine) =>
              (.ok range,
                ⟨{ r.synth with router := r.synth.router.insert p range }, engine⟩)
        else (.error (.notFound (.notLoaded h)), r)

/-- Detaches every key range of a sample from a program. -/
def unbind (p : Program) (h : SampleHandle) (r : Rig E) : Except Error Unit × Rig E :=
  match r.synth.native with
  | .error e => (.error e, r)
  | .ok native =>
    match checkProgram p with
    | .error cause => (.error (.invalidArgument cause), r)
    | .ok () =>
      if r.synth.router.isBound p h then
        match SampleEngine.unbind native h p r.engine with
        | (.error cause, engine) =>
          (.error (.notFound (.refused h cause)), ⟨r.synth, engine⟩)
        | (.ok (), engine) =>
          match r.synth.router.unbind? p h with
          | none => (.error (.notFound (.notBound h p)), ⟨r.synth, engine⟩)
          | some (_, router) => (.ok (), ⟨{ r.synth with router := router }, engine⟩)
      else (.error (.notFound (.notBound h p)), r)

/-- Loads a SoundFont into the engine's synth and returns its number. -/
def loadSoundFont (fs : Files) (path : FilePath) (r : Rig E) : Except Error Nat × Rig E :=
  match r.synth.native with
  | .error e => (.error e, r)
  | .ok native =>
    match SampleEngine.loadSoundFont fs native path r.engine with
    | (.error cause, engine) => (.error (.load path cause), ⟨r.synth, engine⟩)
    | (.ok number, engine) =>
      (.ok number, ⟨{ r.synth with soundFonts := r.synth.soundFonts ++ [path] }, engine⟩)

end Rig

end SampleBank
