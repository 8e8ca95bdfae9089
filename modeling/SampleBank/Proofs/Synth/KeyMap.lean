import SampleBank.Proofs.Router.Separate
import SampleBank.Proofs.Synth.Changes

/-!
# The key map of a synthesizer

A synthesizer asks its engine between checking a range and inserting it, but nothing comes in
between, so the range is still one that passes the check. Every change of a synthesizer
(`Synth.Change`) is therefore one that its key map makes by requests that go through the check,
whatever the engine does (`Router.Becomes`), and so is all that an operation or a layout does to it.
-/

namespace SampleBank

namespace Synth

variable {s t : Synth}

theorem Change.rebinds (change : s.Change t) : s.router.Becomes t.router := by
  cases change with
  | start | abandon | load | loadSoundFont => exact .refl
  | close => exact Router.Becomes.refl.serve .clear trivial
  | release h => exact Router.Becomes.refl.serve (.unbindAll h) trivial
  | bind p range _ _ passed => exact Router.Becomes.refl.serve (.insert p range) passed
  | unbind p h _ is_bound =>
    have served : s.router.serve (.unbind p h) = s.router.remove p h := by
      rw [Router.serve, Router.unbind?_eq_some is_bound]
    rw [← served]
    exact Router.Becomes.refl.serve (.unbind p h) trivial

theorem Becomes.rebinds (b : s.Becomes t) : s.router.Becomes t.router := by
  induction b with
  | refl => exact .refl
  | tail _ change ih => exact ih.trans change.rebinds

end Synth

/-- A layout changes the key map by such requests, wherever it stops. -/
theorem Layout.rebinds_apply (fs : Files) (base : FilePath) (l : Layout) (r : Rig Engine) :
    r.synth.router.Becomes (l.apply fs base r).2.synth.router :=
  (l.becomes_apply fs base r).rebinds

end SampleBank
