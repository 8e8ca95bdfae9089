import SampleBank.Layout

/-!
# Sessions

A session is one engine with the stores and synthesizers that share it. Stores and synthesizers
are known by their numbers, in the order of their creation, and a number stays when its owner
is gone. `Session.step` runs one command; commands to the engine itself stand beside those to
stores and synthesizers.
-/

namespace SampleBank

/-- A call of the engine itself. -/
inductive EngineCommand
  | createSynth
  | destroySynth (synth : SynthHandle)
  | loadSample (path : FilePath) (rootKey : UInt8)
  | deleteSample (sample : SampleHandle)
  | bind (synth : SynthHandle) (sample : SampleHandle) (program : Program)
      (lokey hikey : UInt8)
  | unbind (synth : SynthHandle) (sample : SampleHandle) (program : Program)
  | loadSoundFont (synth : SynthHandle) (path : FilePath)

/-- An operation on a store. -/
inductive StoreCommand
  | load (path : FilePath) (rootKey : UInt8)
  | release (sample : SampleHandle)
  | releaseAll
  | drop

/-- An operation on a synthesizer. -/
inductive SynthCommand
  | start
  | close
  | drop
  | load (path : FilePath) (rootKey : UInt8)
  | release (sample : SampleHandle)
  | bind (program : Program) (lokey hikey : UInt8) (sample : SampleHandle)
  | unbind (program : Program) (sample : SampleHandle)
  | loadSoundFont (path : FilePath)
  | apply (layout : Layout) (base : FilePath)
  | applyBinding (binding : SampleBinding) (base : FilePath)

/-- What can happen in a session. -/
inductive Command
  | engine (command : EngineCommand)
  /-- Tells a mock engine to refuse a kind of call, or not to. -/
  | setRefusal (call : MockCall) (on : Bool)
  | newStore
  | store (index : Nat) (command : StoreCommand)
  | newSynth (policy : OverlapPolicy)
  /-- A new synthesizer that is opened at once; if that fails there is none. -/
  | startedSynth (policy : OverlapPolicy)
  | synth (index : Nat) (command : SynthCommand)

/-- What a command answers. -/
inductive Outcome
  | done
  | created (index : Nat)
  | nativeSynth (synth : SynthHandle)
  | nativeSample (sample : SampleHandle)
  | sample (sample : Sample)
  | samples (samples : List Sample)
  | range (range : KeyRange)
  | font (number : Nat)
  | failed (error : Error)
  | engineFailed (error : EngineError)
  /-- There is no store or synthesizer with that number. -/
  | absent
deriving DecidableEq

/-- An engine and the stores and synthesizers that share it; dropped ones leave a gap. -/
structure Session where
  engine : Engine
  stores : List (Option Store)
  synths : List (Option Synth)
deriving DecidableEq

namespace Session

/-- A session with an engine and nothing else. -/
def new (engine : Engine) : Session := ⟨engine, [], []⟩

/-- A store by its number. -/
def store? (s : Session) (i : Nat) : Option Store := (s.stores[i]?).join

/-- A synthesizer by its number. -/
def synth? (s : Session) (i : Nat) : Option Synth := (s.synths[i]?).join

/-- The answer of an operation, by what is made of its value. -/
def outcome {α : Type} (answer : α → Outcome) : Except Error α → Outcome
  | .ok a => answer a
  | .error e => .failed e

/-- The answer of a call of an engine, by what is made of its value. -/
def engineOutcome {α : Type} (answer : α → Outcome) : Except EngineError α → Outcome
  | .ok a => answer a
  | .error e => .engineFailed e

/-- Runs a call of an engine. -/
def runEngine (fs : Files) (e : Engine) : EngineCommand → Outcome × Engine
  | .createSynth => e.createSynth.map (engineOutcome .nativeSynth) id
  | .destroySynth h => (.done, e.destroySynth h)
  | .loadSample path rootKey =>
    (e.loadSample fs path rootKey).map (engineOutcome .nativeSample) id
  | .deleteSample h => (.done, e.deleteSample h)
  | .bind synth sample program lokey hikey =>
    (e.bind synth sample program lokey hikey).map (engineOutcome fun _ => .done) id
  | .unbind synth sample program =>
    (e.unbind synth sample program).map (engineOutcome fun _ => .done) id
  | .loadSoundFont synth path =>
    (e.loadSoundFont fs synth path).map (engineOutcome .font) id

/-- Runs an operation on a store, which is gone after it is dropped. -/
def runStore (fs : Files) (s : Store) (e : Engine) :
    StoreCommand → Outcome × Option Store × Engine
  | .load path rootKey =>
    let (answer, s, e) := s.load fs path rootKey e
    (outcome .sample answer, some s, e)
  | .release h =>
    let (s, e) := s.release h e
    (.done, some s, e)
  | .releaseAll =>
    let (s, e) := s.releaseAll e
    (.done, some s, e)
  | .drop => (.done, none, (s.releaseAll e).2)

/-- The answer of an operation after which the synthesizer is still there. -/
def still {E α : Type} (answer : α → Outcome) (result : Except Error α × Rig E) :
    Outcome × Option Synth × E :=
  (outcome answer result.1, some result.2.synth, result.2.engine)

/-- Runs an operation on a synthesizer, which is gone after it is dropped. -/
def runSynth {E : Type} [SampleEngine E] (fs : Files) (r : Rig E) :
    SynthCommand → Outcome × Option Synth × E
  | .start => still (fun _ => .done) r.start
  | .close => (.done, some r.close.synth, r.close.engine)
  | .drop => (.done, none, r.drop)
  | .load path rootKey => still .sample (r.loadSample fs path rootKey)
  | .release h => still (fun _ => .done) (r.releaseSample h)
  | .bind program lokey hikey h => still .range (r.bind program lokey hikey h)
  | .unbind program h => still (fun _ => .done) (r.unbind program h)
  | .loadSoundFont path => still .font (r.loadSoundFont fs path)
  | .apply layout base => still .samples (layout.apply fs base r)
  | .applyBinding binding base => still .sample (binding.apply fs base r)

/-- Runs a command. -/
def step (fs : Files) (s : Session) : Command → Outcome × Session
  | .engine command =>
    let (answer, e) := runEngine fs s.engine command
    (answer, { s with engine := e })
  | .setRefusal call on =>
    match s.engine with
    | .ram _ => (.done, s)
    | .mock m => (.done, { s with engine := .mock (m.setRefusal call on) })
  | .newStore => (.created s.stores.length, { s with stores := s.stores ++ [some .empty] })
  | .store i command =>
    match s.store? i with
    | none => (.absent, s)
    | some store =>
      let (answer, left, e) := runStore fs store s.engine command
      (answer, { s with engine := e, stores := s.stores.set i left })
  | .newSynth policy =>
    (.created s.synths.length, { s with synths := s.synths ++ [some (.new policy)] })
  | .startedSynth policy =>
    match Rig.start ⟨.new policy, s.engine⟩ with
    | (.error e, r) => (.failed e, { s with engine := r.drop })
    | (.ok (), r) =>
      (.created s.synths.length,
        { s with engine := r.engine, synths := s.synths ++ [some r.synth] })
  | .synth i command =>
    match s.synth? i with
    | none => (.absent, s)
    | some synth =>
      let (answer, left, e) := runSynth fs ⟨synth, s.engine⟩ command
      (answer, { s with engine := e, synths := s.synths.set i left })

/-- Runs commands one after the other. -/
def run (fs : Files) (s : Session) (commands : List Command) : Session :=
  commands.foldl (fun s c => (s.step fs c).2) s

end Session

end SampleBank
