import SampleBank.Proofs.Engine.Deletion
import SampleBank.Proofs.Session.Sharing

/-!
# Sessions reach their engine by calls

Stores and synthesizers do nothing to an engine but call it. Whatever they are asked, and wherever
a layout stops, the engine that they leave has come to be what it is by calls (`Engine.Reaches`).
So what holds of an engine however it is called also holds of the engine of a session, and a
session of any kind inherits it without a proof about stores and synthesizers
(`Session.Reachable.reached`). That a RAM engine is in order is an example
(`Session.Reachable.tidy`).
-/

namespace SampleBank

open Session (runEngine)

namespace Engine

/-- An engine comes to be another by calls. -/
def Reaches (e e' : Engine) : Prop := ∃ log, e.Serves log e'

variable {e e' e'' : Engine} {native : SynthHandle} {h : SampleHandle} {p : Program} {fs : Files}
  {path : FilePath} {lokey hikey rootKey : UInt8}

/-- Calls that come later add to the log of those that came before. -/
theorem Serves.trans {log log' : CallLog} (first : e.Serves log e') (second : e'.Serves log' e'') :
    e.Serves (log ++ log') e'' := by
  induction second with
  | start => exact (List.append_nil log).symm ▸ first
  | call fs command _ ih =>
    rw [← List.append_assoc]
    exact ih.call fs command
  | setRefusal call on _ ih => exact ih.setRefusal call on

/-- An engine that is not called stays what it is. -/
theorem Reaches.refl (e : Engine) : e.Reaches e := ⟨[], .start⟩

/-- Calls can be made one after the other. -/
theorem Reaches.trans (first : e.Reaches e') (second : e'.Reaches e'') : e.Reaches e'' := by
  obtain ⟨log, served⟩ := first
  obtain ⟨log', served'⟩ := second
  exact ⟨log ++ log', served.trans served'⟩

/-- A single call of any kind is a way to get from an engine to what the call leaves. -/
theorem reaches_runEngine (fs : Files) (e : Engine) (command : EngineCommand) :
    e.Reaches (runEngine fs e command).2 :=
  ⟨_, .call fs command .start⟩

/-- A RAM engine that is in order stays so, however it is called. -/
theorem Reaches.tidy (reached : e.Reaches e') (tidy : e.Tidy) : e'.Tidy := by
  obtain ⟨log, served⟩ := reached
  induction served with
  | start => exact tidy
  | @call log e' fs command _ before =>
    cases e' with
    | ram r =>
      obtain ⟨r', same, step⟩ := Ram.step_runEngine fs r command
      have after := step.tidy before
      rw [same, Engine.Tidy, after.limit]
      exact after
    | mock m =>
      obtain ⟨m', same, -⟩ := Mock.step_runEngine fs m command
      rw [same]
      trivial
  | setRefusal => trivial

/-! ### Single calls -/

/-- Asking for a synth is a call, whether it is granted or not. -/
theorem reaches_createSynth {answer : Except EngineError SynthHandle}
    (asked : e.createSynth = (answer, e')) : e.Reaches e' := by
  have reached := reaches_runEngine ⟨"", []⟩ e .createSynth
  rwa [runEngine, asked] at reached

/-- Asking for a sample is a call, whether the file is fit for it or not. -/
theorem reaches_loadSample {answer : Except EngineError SampleHandle}
    (asked : e.loadSample fs path rootKey = (answer, e')) : e.Reaches e' := by
  have reached := reaches_runEngine fs e (.loadSample path rootKey)
  rwa [runEngine, asked] at reached

/-- Attaching a sample is a call, also when the engine refuses it. -/
theorem reaches_bind {answer : Except EngineError Unit}
    (asked : e.bind native h p lokey hikey = (answer, e')) : e.Reaches e' := by
  have reached := reaches_runEngine ⟨"", []⟩ e (.bind native h p lokey hikey)
  rwa [runEngine, asked] at reached

/-- Detaching a sample is a call, also when the engine refuses it. -/
theorem reaches_unbind {answer : Except EngineError Unit}
    (asked : e.unbind native h p = (answer, e')) : e.Reaches e' := by
  have reached := reaches_runEngine ⟨"", []⟩ e (.unbind native h p)
  rwa [runEngine, asked] at reached

/-- Loading a SoundFont is a call, also when the file is none. -/
theorem reaches_loadSoundFont {answer : Except EngineError Nat}
    (asked : e.loadSoundFont fs native path = (answer, e')) : e.Reaches e' := by
  have reached := reaches_runEngine fs e (.loadSoundFont native path)
  rwa [runEngine, asked] at reached

theorem reaches_deleteSample (e : Engine) (h : SampleHandle) : e.Reaches (e.deleteSample h) :=
  reaches_runEngine ⟨"", []⟩ e (.deleteSample h)

theorem reaches_destroySynth (e : Engine) (native : SynthHandle) :
    e.Reaches (e.destroySynth native) :=
  reaches_runEngine ⟨"", []⟩ e (.destroySynth native)

end Engine

/-! ### Stores -/

namespace Store

open Engine

/-- A store that loads a file calls the engine once, or not at all if the root key is too high. -/
theorem reaches_load (fs : Files) (path : FilePath) (rootKey : UInt8) (s : Store) (e : Engine) :
    e.Reaches (s.load fs path rootKey e).2.2 := by
  rcases loaded : s.load fs path rootKey e with ⟨answer, s', e'⟩
  cases answer with
  | error cause =>
    obtain ⟨-, rfl⟩ := eq_of_load_error loaded
    exact .refl _
  | ok sample => exact reaches_loadSample (eq_of_load_ok loaded).1

/-- A store that releases a sample has the engine delete it, if the sample is its own. -/
theorem reaches_release (h : SampleHandle) (s : Store) (e : Engine) :
    e.Reaches (s.release h e).2 := by
  rw [release]
  split
  · exact reaches_deleteSample e h
  · exact .refl e

/-- Releasing samples one by one is one call for each of them. -/
theorem reaches_foldl_release (released : List SampleHandle) (s : Store) (e : Engine) :
    e.Reaches (released.foldl (fun (s, e) h => release h s e) (s, e)).2 := by
  induction released generalizing s e with
  | nil => exact .refl e
  | cons h later ih => exact (reaches_release h s e).trans (ih _ _)

/-- Releasing everything is releasing each of the samples. -/
theorem reaches_releaseAll (s : Store) (e : Engine) : e.Reaches (s.releaseAll e).2 :=
  reaches_foldl_release s.handles s e

end Store

/-! ### Synthesizers -/

namespace Rig

open Engine

variable {native : SynthHandle}

/-- Starting asks for a synth, and not even that unless the synthesizer is new. -/
theorem reaches_start (r : Rig Engine) : r.engine.Reaches r.start.2.engine := by
  rcases opened : r.start with ⟨answer, r'⟩
  cases answer with
  | error cause =>
    rw [eq_of_start_error opened]
    exact .refl _
  | ok _ =>
    obtain ⟨-, native, e', agreed, rfl⟩ := of_start_ok opened
    exact reaches_createSynth agreed

/-- Everything that is attached is detached in turn, and what the engine answers is ignored. -/
theorem reaches_detach (native : SynthHandle) (attached : List (SampleHandle × Program))
    (e : Engine) : e.Reaches (detach native attached e) := by
  induction attached generalizing e with
  | nil => exact .refl e
  | cons a later ih => exact (reaches_unbind rfl).trans (ih _)

/-- Closing detaches, deletes and destroys, one call after the other. -/
theorem reaches_close (r : Rig Engine) : r.engine.Reaches r.close.engine := by
  by_cases played : ∃ native, r.synth.PlaysOn native
  · obtain ⟨native, active⟩ := played
    rw [close_eq active]
    exact ((reaches_detach native _ r.engine).trans (Store.reaches_releaseAll _ _)).trans
      (reaches_destroySynth _ native)
  · rw [close_eq_of_silent (not_exists.1 played)]
    exact .refl _

/-- Dropping a synthesizer closes it, and has the engine delete what its store still has. -/
theorem reaches_drop (r : Rig Engine) : r.engine.Reaches r.drop :=
  (reaches_close r).trans (Store.reaches_releaseAll _ _)

/-- Loading through a synthesizer is what its store does with the engine. -/
theorem reaches_loadSample (fs : Files) (path : FilePath) (rootKey : UInt8) (r : Rig Engine) :
    r.engine.Reaches (r.loadSample fs path rootKey).2.engine := by
  rcases loaded : r.loadSample fs path rootKey with ⟨answer, r'⟩
  cases answer with
  | error cause =>
    rw [eq_of_loadSample_error loaded]
    exact .refl _
  | ok sample =>
    obtain ⟨native, e', -, agreed, -, rfl⟩ := of_loadSample_ok loaded
    exact Engine.reaches_loadSample agreed

/-- Releasing through a synthesizer detaches the sample everywhere before it is deleted. -/
theorem reaches_releaseSample (h : SampleHandle) (r : Rig Engine) :
    r.engine.Reaches (r.releaseSample h).2.engine := by
  by_cases played : ∃ native, r.synth.PlaysOn native
  · obtain ⟨native, active⟩ := played
    rw [releaseSample_eq active]
    exact (reaches_detach native _ r.engine).trans (Store.reaches_release h _ _)
  · rw [releaseSample_eq_error (not_exists.1 played)]
    exact .refl _

/-- Binding calls the engine last, when all checks are passed. -/
theorem reaches_bind (p : Program) (lokey hikey : UInt8) (h : SampleHandle) (r : Rig Engine) :
    r.engine.Reaches (r.bind p lokey hikey h).2.engine := by
  rcases bound : r.bind p lokey hikey h with ⟨answer, r'⟩
  cases answer with
  | error cause =>
    rw [eq_of_bind_error bound]
    exact .refl _
  | ok range =>
    obtain ⟨native, e', -, -, -, -, agreed, rfl⟩ := of_bind_ok bound
    exact Engine.reaches_bind agreed

/-- Unbinding calls the engine only for what is bound. -/
theorem reaches_unbind (p : Program) (h : SampleHandle) (r : Rig Engine) :
    r.engine.Reaches (r.unbind p h).2.engine := by
  rcases unbound : r.unbind p h with ⟨answer, r'⟩
  cases answer with
  | error cause =>
    rw [eq_of_unbind_error unbound]
    exact .refl _
  | ok _ =>
    obtain ⟨native, e', -, -, agreed, rfl⟩ := of_unbind_ok unbound
    exact Engine.reaches_unbind agreed

/-- A synthesizer hands a SoundFont on to its engine if it is open. -/
theorem reaches_loadSoundFont (fs : Files) (path : FilePath) (r : Rig Engine) :
    r.engine.Reaches (r.loadSoundFont fs path).2.engine := by
  rcases loaded : r.loadSoundFont fs path with ⟨answer, r'⟩
  cases answer with
  | error cause =>
    rw [eq_of_loadSoundFont_error loaded]
    exact .refl _
  | ok number =>
    obtain ⟨native, e', -, agreed, rfl⟩ := of_loadSoundFont_ok loaded
    exact Engine.reaches_loadSoundFont agreed

end Rig

/-- A binding loads, binds, and releases again if it cannot bind. -/
theorem SampleBinding.reaches_apply (fs : Files) (base : FilePath) (b : SampleBinding)
    (r : Rig Engine) : r.engine.Reaches (b.apply fs base r).2.engine := by
  have load := Rig.reaches_loadSample fs (base.resolve b.file) b.rootKey r
  rw [SampleBinding.apply]
  split
  · rename_i failed
    rw [failed] at load
    exact load
  · rename_i sample r₁ loaded
    rw [loaded] at load
    have bind := load.trans (Rig.reaches_bind b.program b.lokey b.hikey sample.handle r₁)
    split
    · rename_i bound
      rw [bound] at bind
      exact bind
    · rename_i r₂ refused
      rw [refused] at bind
      have release := bind.trans (Rig.reaches_releaseSample sample.handle r₂)
      split <;> (rename_i released; rw [released] at release; exact release)

/-- Wherever a layout stops, its SoundFonts and bindings have only made calls. -/
theorem Layout.reaches_apply (fs : Files) (base : FilePath) (l : Layout) (r : Rig Engine) :
    r.engine.Reaches (l.apply fs base r).2.engine :=
  apply_induction (P := fun left => r.engine.Reaches left.engine)
    (fun r₁ path before => before.trans (Rig.reaches_loadSoundFont fs path r₁))
    (fun r₁ binding before => before.trans (binding.reaches_apply fs base r₁)) l (.refl _)

/-! ### Sessions -/

namespace Session

open Engine

variable {allowed : Command → Prop} {s : Session} {fs : Files}

/-- Whatever a store is told to do, it does to the engine by calls. -/
theorem reaches_runStore (fs : Files) (store : Store) (e : Engine) (command : StoreCommand) :
    e.Reaches (runStore fs store e command).2.2 := by
  cases command with
  | load path rootKey => exact Store.reaches_load fs path rootKey store e
  | release h => exact Store.reaches_release h store e
  | releaseAll | drop => exact Store.reaches_releaseAll store e

/-- Whatever a synthesizer is told to do, it does to the engine by calls. -/
theorem reaches_runSynth (fs : Files) (r : Rig Engine) (command : SynthCommand) :
    r.engine.Reaches (runSynth fs r command).2.2 := by
  cases command with
  | start => exact Rig.reaches_start r
  | close => exact Rig.reaches_close r
  | drop => exact Rig.reaches_drop r
  | load path rootKey => exact Rig.reaches_loadSample fs path rootKey r
  | release h => exact Rig.reaches_releaseSample h r
  | bind p lokey hikey h => exact Rig.reaches_bind p lokey hikey h r
  | unbind p h => exact Rig.reaches_unbind p h r
  | loadSoundFont path => exact Rig.reaches_loadSoundFont fs path r
  | apply layout base => exact layout.reaches_apply fs base r
  | applyBinding binding base => exact binding.reaches_apply fs base r

/-- A command does to the engine what some calls do, or tells it what to refuse. -/
theorem reaches_step (fs : Files) (s : Session) (c : Command) :
    s.engine.Reaches (s.step fs c).2.engine := by
  cases c with
  | engine command => exact reaches_runEngine fs s.engine command
  | setRefusal call on =>
    obtain ⟨engine, stores, synths⟩ := s
    cases engine with
    | ram r => exact .refl _
    | mock m => exact ⟨[], .setRefusal call on .start⟩
  | newStore | newSynth policy => exact .refl _
  | store i command =>
    cases hs : s.store? i with
    | none =>
      rw [step, hs]
      exact .refl _
    | some store =>
      rw [step_store_eq hs]
      exact reaches_runStore fs store s.engine command
  | startedSynth policy =>
    have start := Rig.reaches_start ⟨.new policy, s.engine⟩
    rw [step]
    rcases opened : Rig.start ⟨.new policy, s.engine⟩ with ⟨answer, r⟩
    rw [opened] at start
    cases answer with
    | error cause => exact start.trans (Rig.reaches_drop r)
    | ok _ => exact start
  | synth i command =>
    cases hs : s.synth? i with
    | none =>
      rw [step, hs]
      exact .refl _
    | some synth =>
      rw [step_synth_eq hs]
      exact reaches_runSynth fs ⟨synth, s.engine⟩ command

/-- Whatever commands a session allows, its engine was new once and has been called since. -/
theorem Reachable.reached (reachable : s.Reachable allowed) :
    (∃ maxSamples sampleRate, (Engine.ram (.new maxSamples sampleRate)).Reaches s.engine) ∨
      ∃ name, (Engine.mock (.new name)).Reaches s.engine := by
  induction reachable with
  | ram maxSamples sampleRate => exact .inl ⟨maxSamples, sampleRate, .refl _⟩
  | mock name => exact .inr ⟨name, .refl _⟩
  | @step s fs c _ _ ih =>
    rcases ih with ⟨maxSamples, sampleRate, reached⟩ | ⟨name, reached⟩
    · exact .inl ⟨maxSamples, sampleRate, reached.trans (reaches_step fs s c)⟩
    · exact .inr ⟨name, reached.trans (reaches_step fs s c)⟩

/-- The RAM engine of a session is in order, whoever calls it. -/
theorem Reachable.tidy (reachable : s.Reachable allowed) : s.engine.Tidy := by
  rcases reachable.reached with ⟨maxSamples, sampleRate, reached⟩ | ⟨name, reached⟩
  · exact reached.tidy (Ram.tidy_new maxSamples sampleRate)
  · exact reached.tidy trivial

end Session

end SampleBank
