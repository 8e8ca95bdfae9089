import SampleBank.Proofs.Synth.Inversion
import SampleBank.Session

/-!
# Operations that fail leave no trace

`Operation` names the operations of a synthesizer that can fail. When one fails, the rig that it
leaves behind is the one it was given, synthesizer and engine alike: `Rig.run_error_eq`. There is
no assumption about the rig, so this holds whatever others have done to the engine before.

An operation that fails has changed nothing but what the engine did to itself while it refused
(`Rig.of_bind_error` and its companions), and an engine that refuses does nothing
(`SampleBank.Proofs.Engine.Refusal`). A detaching asks the key map after the engine, and the key map
could refuse in turn. It does not, because the range was looked up before (`Rig.unbind_eq_ok`).
-/

namespace SampleBank

/-- The operations of a synthesizer that can fail. -/
inductive Operation
  | start
  | loadSample (path : FilePath) (rootKey : UInt8)
  | releaseSample (sample : SampleHandle)
  | lookup (sample : SampleHandle)
  | samples
  | bind (program : Program) (lokey hikey : UInt8) (sample : SampleHandle)
  | unbind (program : Program) (sample : SampleHandle)
  | resolve (program : Program) (key : UInt8)
  | bindings
  | loadSoundFont (path : FilePath)
  | loadedFonts

namespace Rig

variable {E : Type} [SampleEngine E]

/-- Whether an operation failed, and the rig it leaves behind. -/
def withoutValue {α : Type} (result : Except Error α × Rig E) : Except Error Unit × Rig E :=
  (result.1.map fun _ => (), result.2)

/-- What a question about the synthesizer answers; it leaves the rig as it is. -/
def ask {α : Type} (question : Synth → Except Error α) (r : Rig E) : Except Error α × Rig E :=
  (question r.synth, r)

/-- Runs an operation, whose value is of no interest here. -/
def run (fs : Files) (r : Rig E) : Operation → Except Error Unit × Rig E
  | .start => r.start
  | .loadSample path rootKey => withoutValue (r.loadSample fs path rootKey)
  | .releaseSample h => r.releaseSample h
  | .lookup h => withoutValue (r.ask (·.lookup h))
  | .samples => withoutValue (r.ask (·.samples))
  | .bind p lokey hikey h => withoutValue (r.bind p lokey hikey h)
  | .unbind p h => r.unbind p h
  | .resolve p key => withoutValue (r.ask (·.resolve p key))
  | .bindings => withoutValue (r.ask (·.bindings))
  | .loadSoundFont path => withoutValue (r.loadSoundFont fs path)
  | .loadedFonts => withoutValue (r.ask (·.loadedFonts))

variable {fs : Files} {r r' : Rig Engine} {e : Error} {p : Program} {h : SampleHandle}
  {path : FilePath} {lokey hikey rootKey : UInt8}

/-! ### One operation at a time -/

/-- A synthesizer that cannot start leaves the engine alone. -/
theorem eq_of_start_error (failed : r.start = (.error e, r')) : r' = r := by
  obtain rfl | ⟨cause, e', refused, rfl⟩ := of_start_error failed
  · rfl
  · rw [Engine.eq_of_createSynth_error refused]

/-- A load that fails leaves no sample, neither in the store nor at the engine. -/
theorem eq_of_loadSample_error (failed : r.loadSample fs path rootKey = (.error e, r')) :
    r' = r := by
  obtain rfl | ⟨cause, e', refused, rfl⟩ := of_loadSample_error failed
  · rfl
  · rw [Engine.eq_of_loadSample_error refused]

/-- Releasing fails only where no engine's synth is there to release from. -/
theorem eq_of_releaseSample_error (failed : r.releaseSample h = (.error e, r')) : r' = r := by
  rw [releaseSample] at failed
  split at failed
  · exact (Prod.mk.inj failed).2.symm
  · cases (Prod.mk.inj failed).1

/-- A bind that fails leaves no range in the key map and no zone at the engine. -/
theorem eq_of_bind_error (failed : r.bind p lokey hikey h = (.error e, r')) : r' = r := by
  obtain rfl | ⟨native, cause, e', refused, rfl⟩ := of_bind_error failed
  · rfl
  · rw [Engine.eq_of_bind_error refused]

/-- An unbind that fails takes nothing from either side. -/
theorem eq_of_unbind_error (failed : r.unbind p h = (.error e, r')) : r' = r := by
  obtain rfl | ⟨native, cause, e', refused, rfl⟩ := of_unbind_error failed
  · rfl
  · rw [Engine.eq_of_unbind_error refused]

/-- A SoundFont that is refused is on neither side. -/
theorem eq_of_loadSoundFont_error (failed : r.loadSoundFont fs path = (.error e, r')) :
    r' = r := by
  obtain rfl | ⟨native, cause, e', refused, rfl⟩ := of_loadSoundFont_error failed
  · rfl
  · rw [Engine.eq_of_loadSoundFont_error refused]

/-! ### All of them -/

/-- What is known of a failure does not depend on the value that a success would have. -/
theorem eq_of_withoutValue_error {α : Type} {result : Except Error α × Rig Engine}
    (failed : withoutValue result = (.error e, r'))
    (kept : ∀ {e r'}, result = (.error e, r') → r' = r) : r' = r := by
  obtain ⟨answer, left⟩ := result
  cases answer with
  | ok a => cases (Prod.mk.inj failed).1
  | error cause => exact (Prod.mk.inj failed).2 ▸ kept rfl

/-- An operation that fails leaves synthesizer and engine as they were. -/
theorem eq_of_run_error {op : Operation} (failed : r.run fs op = (.error e, r')) : r' = r := by
  cases op with
  | start => exact eq_of_start_error failed
  | loadSample path rootKey => exact eq_of_withoutValue_error failed eq_of_loadSample_error
  | releaseSample h => exact eq_of_releaseSample_error failed
  | bind p lokey hikey h => exact eq_of_withoutValue_error failed eq_of_bind_error
  | unbind p h => exact eq_of_unbind_error failed
  | loadSoundFont path => exact eq_of_withoutValue_error failed eq_of_loadSoundFont_error
  | lookup | samples | resolve | bindings | loadedFonts => exact (Prod.mk.inj failed).2.symm

/-- An operation that fails leaves synthesizer and engine exactly as they were. When the engine has
let go of a bound sample, the detaching does not fail. -/
theorem run_error_eq (fs : Files) (r : Rig Engine) (op : Operation) (e : Error)
    (failed : (r.run fs op).1 = .error e) :
    (r.run fs op).2 = r ∧
      ∀ p h native, op = .unbind p h → r.synth.native = .ok native → p.Valid →
        r.synth.router.isBound p h = true →
          ∃ cause, r.engine.unbind native h p = (.error cause, r.engine) := by
  refine ⟨eq_of_run_error (Prod.ext failed rfl), ?_⟩
  rintro p h native rfl active valid bound
  rcases asked : r.engine.unbind native h p with ⟨answer, engine⟩
  cases answer with
  | error cause => exact ⟨cause, by rw [Engine.eq_of_unbind_error asked]⟩
  | ok _ =>
    rw [run, unbind_eq_ok active valid bound asked] at failed
    cases failed

/-- A synthesizer with one bound sample, on a mock engine that detaches nothing. -/
def busyRig : Rig Engine where
  synth := {
    phase := .open
    handle? := some ⟨0⟩
    store := ⟨.insert .empty ⟨0⟩ ⟨⟨0⟩, ⟨[]⟩, 60⟩⟩
    router := .insert (.empty .reject) ⟨0, 0⟩ ⟨10, 20, ⟨0⟩, by decide, by decide⟩
    soundFonts := [] }
  engine := .mock {
    Mock.new "busy" with
    refused := [.unbind]
    synths := .insert .empty ⟨0⟩ ()
    samples := .insert .empty ⟨0⟩ (⟨[]⟩, 60)
    zones := [⟨⟨0⟩, ⟨0⟩, ⟨0, 0⟩, 10, 20⟩]
    nextSynth := 1
    nextSample := 1 }

/-- The engine refuses to detach what it holds, and the range is still in the key map. -/
theorem run_unbind_busyRig_eq :
    (busyRig.run ⟨"", []⟩ (.unbind ⟨0, 0⟩ ⟨0⟩)).2 = busyRig ∧
      ∃ cause, busyRig.engine.unbind ⟨0⟩ ⟨0⟩ ⟨0, 0⟩ = (.error cause, busyRig.engine) := by
  have ⟨same, refused⟩ := run_error_eq ⟨"", []⟩ busyRig (.unbind ⟨0, 0⟩ ⟨0⟩)
    (.notFound (.refused ⟨0⟩ (.rejected "zone is busy"))) (by decide)
  exact ⟨same, refused ⟨0, 0⟩ ⟨0⟩ ⟨0⟩ rfl rfl (by decide) (by decide)⟩

end Rig

end SampleBank
