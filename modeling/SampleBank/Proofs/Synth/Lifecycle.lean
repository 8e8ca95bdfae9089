import SampleBank.Proofs.Synth.Changes

/-!
# The life of a synthesizer

A synthesizer goes from uninitialized to open to closed, or from uninitialized to closed at once,
and never back (`Phase.Leads`). Phase, handle and contents are kept apart, and every operation has
to leave them in agreement: there is a handle exactly while the synthesizer is open, it holds
something only while it is open, and while it is not open it refuses every operation with its phase,
before it looks at an argument or asks the engine (`Synth.Lifecycle`). That they agree is proved
along a run, from what one operation can change (`Synth.Change.coherent`).

Nothing is asked of the engine. Each of the operations that a synthesizer undergoes may find another
engine than the last, in any state and of any make (`Synth.Undergoes`): it may refuse what it likes
and change while it refuses, and others may call it in between.
-/

namespace SampleBank

/-- Where a synthesizer can get from a phase. -/
inductive Phase.Leads : Phase → Phase → Prop
  | stay (p : Phase) : p.Leads p
  | start : Leads .uninitialized .open
  | abandon : Leads .uninitialized .closed
  | close : Leads .open .closed

/-- Phases follow one another. -/
theorem Phase.Leads.trans {p q r : Phase} (h : p.Leads q) (h' : q.Leads r) : p.Leads r := by
  cases h with
  | stay => exact h'
  | abandon | close =>
    cases h'
    constructor
  | start =>
    cases h' with
    | stay => exact .start
    | close => exact .abandon

/-- Nothing leads out of the last phase. -/
theorem Phase.Leads.eq_closed {p : Phase} (h : Phase.closed.Leads p) : p = .closed := by
  cases h with
  | stay => rfl

namespace Synth

/-- What a synthesizer comes to by operations one after the other, each with an engine of any kind
and in any state. -/
inductive Undergoes (s : Synth) : Synth → Prop
  | refl : s.Undergoes s
  | run {t left : Synth} {E : Type} [SampleEngine E] (fs : Files) (e : E)
      (command : SynthCommand) : s.Undergoes t →
    (Session.runSynth fs ⟨t, e⟩ command).2.1 = some left → s.Undergoes left

/-- How a synthesizer stands in its life, and what it answers there, whatever the engine is. -/
structure Lifecycle (s : Synth) : Prop where
  handle : s.handle?.isSome = true ↔ s.phase = .open
  store : s.phase ≠ .open → s.store = .empty
  router : s.phase ≠ .open → s.router.isEmpty = true ∧ s.router.bindings = []
  soundFonts : s.phase ≠ .open → s.soundFonts = []
  onward : ∀ t, s.Undergoes t → s.phase.Leads t.phase
  starts : s.phase = .uninitialized → ∀ {E : Type} [SampleEngine E] (e : E) native e',
    SampleEngine.createSynth e = (.ok native, e') →
      ∃ t, Rig.start ⟨s, e⟩ = (.ok (), ⟨t, e'⟩) ∧ t.phase = .open ∧ t.handle? = some native
  /-- It is left as it was, so that it starts once an engine has a synth for it. -/
  retries : s.phase = .uninitialized → ∀ {E : Type} [SampleEngine E] (e : E) cause e',
    SampleEngine.createSynth e = (.error cause, e') →
      Rig.start ⟨s, e⟩ = (.error (.init cause), ⟨s, e'⟩)
  /-- Whatever the arguments are, and whatever the engine would say to them. -/
  refuses : s.phase ≠ .open → ∀ {E : Type} [SampleEngine E] fs (e : E) op, op ≠ .start →
    Rig.run fs ⟨s, e⟩ op = (.error (.invalidState s.phase), ⟨s, e⟩)
  refuses_start : s.phase ≠ .uninitialized → ∀ {E : Type} [SampleEngine E] (e : E),
    Rig.start ⟨s, e⟩ = (.error (.invalidState s.phase), ⟨s, e⟩)

variable {s t : Synth} {E : Type} [SampleEngine E] {e e' : E}

/-! ### Phases -/

/-- A change moves the phase on, or leaves it. -/
theorem Change.leads (change : s.Change t) : s.phase.Leads t.phase := by
  cases change with
  | start native new => exact new ▸ .start
  | abandon silent =>
    cases s.phase with
    | uninitialized => exact .abandon
    | «open» => exact .close
    | closed => exact .stay _
  | close native plays => exact plays.opened ▸ .close
  | load | release | bind | unbind | loadSoundFont => exact .stay _

/-- So do any number of changes. -/
theorem Becomes.leads (b : s.Becomes t) : s.phase.Leads t.phase := by
  induction b with
  | refl => exact .stay _
  | tail _ change ih => exact ih.trans change.leads

/-- All that operations do to a synthesizer is done by changes. -/
theorem Undergoes.becomes (h : s.Undergoes t) : s.Becomes t := by
  induction h with
  | refl => exact .refl
  | run fs e command _ ran ih => exact ih.trans (Session.becomes_runSynth ran)

/-! ### Refusals -/

/-- A synthesizer that is not open has no synth to offer. -/
theorem native_of_not_open (idle : s.phase ≠ .open) :
    s.native = .error (.invalidState s.phase) :=
  native_eq_error fun _ plays => idle plays.opened

/-- Every operation but starting looks at the phase before anything else. -/
theorem run_of_not_open (idle : s.phase ≠ .open) (fs : Files) (e : E) {op : Operation}
    (later : op ≠ .start) :
    Rig.run fs ⟨s, e⟩ op = (.error (.invalidState s.phase), ⟨s, e⟩) := by
  have refused := native_of_not_open idle
  cases op with
  | start => exact absurd rfl later
  | loadSample path rootKey => rw [Rig.run, Rig.loadSample, refused]; rfl
  | releaseSample h => rw [Rig.run, Rig.releaseSample, refused]
  | lookup h => rw [Rig.run, Rig.ask, lookup, refused]; rfl
  | samples => rw [Rig.run, Rig.ask, samples, refused]; rfl
  | bind p lokey hikey h => rw [Rig.run, Rig.bind, refused]; rfl
  | unbind p h => rw [Rig.run, Rig.unbind, refused]
  | resolve p key => rw [Rig.run, Rig.ask, resolve, refused]; rfl
  | bindings => rw [Rig.run, Rig.ask, bindings, refused]; rfl
  | loadSoundFont path => rw [Rig.run, Rig.loadSoundFont, refused]; rfl
  | loadedFonts => rw [Rig.run, Rig.ask, loadedFonts, refused]; rfl

/-- A synthesizer starts once. -/
theorem start_of_started (started : s.phase ≠ .uninitialized) (e : E) :
    Rig.start ⟨s, e⟩ = (.error (.invalidState s.phase), ⟨s, e⟩) := by
  rw [Rig.start, if_neg started]

/-- A new synthesizer takes the synth that an engine has for it. -/
theorem start_of_created {native : SynthHandle} (new : s.phase = .uninitialized)
    (agreed : SampleEngine.createSynth e = (.ok native, e')) :
    Rig.start ⟨s, e⟩ = (.ok (), ⟨{ s with handle? := some native, phase := .open }, e'⟩) := by
  rw [Rig.start, if_pos new]
  simp only [agreed]

/-- A new synthesizer that gets no synth stays as it was, but the engine may not. -/
theorem start_of_refused {cause : EngineError} (new : s.phase = .uninitialized)
    (refused : SampleEngine.createSynth e = (.error cause, e')) :
    Rig.start ⟨s, e⟩ = (.error (.init cause), ⟨s, e'⟩) := by
  rw [Rig.start, if_pos new]
  simp only [refused]

/-! ### The whole life -/

/-- Phase, handle and contents agree after any operations. -/
theorem Undergoes.coherent {policy : OverlapPolicy} (h : (new policy).Undergoes s) : s.Coherent :=
  h.becomes.coherent (coherent_new policy)

/-- Whatever a synthesizer undergoes, and with whatever engines. -/
theorem lifecycle_of_undergoes {policy : OverlapPolicy} (h : (new policy).Undergoes s) :
    s.Lifecycle where
  handle := h.coherent.handle
  store idle := (h.coherent.blank idle).1
  router idle := h.coherent.no_bindings idle
  soundFonts idle := (h.coherent.blank idle).2
  onward _ further := further.becomes.leads
  starts new _ _ _ _ _ agreed := ⟨_, start_of_created new agreed, rfl, rfl⟩
  retries new _ _ _ _ _ refused := start_of_refused new refused
  refuses idle _ _ fs e _ later := run_of_not_open idle fs e later
  refuses_start started _ _ e := start_of_started started e

/-- An engine that counts its calls. It grants no synth at first, and never lets go of a sample. -/
structure Reluctant where
  calls : Nat
deriving DecidableEq

instance : SampleEngine Reluctant where
  createSynth e := (if e.calls = 0 then .error (.rejected "not yet") else .ok ⟨3⟩, ⟨e.calls + 1⟩)
  destroySynth _ e := ⟨e.calls + 1⟩
  loadSample _ _ _ e := (.ok ⟨0⟩, ⟨e.calls + 1⟩)
  deleteSample _ e := ⟨e.calls + 1⟩
  bind _ _ _ _ _ e := (.ok (), ⟨e.calls + 1⟩)
  unbind _ _ _ e := (.error (.rejected "never"), ⟨e.calls + 1⟩)
  loadSoundFont _ _ _ e := (.ok 0, ⟨e.calls + 1⟩)
  text _ := "reluctant"

/-- The engine refuses once, counting that too, and then has a synth. What is loaded and bound goes
when the synthesizer is closed, though the engine detaches nothing, and after that no argument is
invalid enough to be looked at, and no call is counted. -/
theorem lifecycle_reluctant :
    let closed : Synth := ⟨.closed, none, .empty, ⟨.reject, .empty, 1⟩, []⟩
    (new .reject).Undergoes closed ∧ closed.handle? = none ∧
      (∀ t, closed.Undergoes t → t.phase = .closed) ∧
      Rig.run ⟨"", []⟩ ⟨closed, Reluctant.mk 7⟩ (.bind ⟨200, 200⟩ 9 3 ⟨7⟩) =
        (.error (.invalidState .closed), ⟨closed, Reluctant.mk 7⟩) := by
  have refused : (new .reject).Undergoes (new .reject) :=
    .run ⟨"", []⟩ (Reluctant.mk 0) .start .refl (by decide)
  have opened : (new .reject).Undergoes
      { new .reject with handle? := some ⟨3⟩, phase := .open } :=
    refused.run ⟨"", []⟩ (Reluctant.mk 1) .start (by decide)
  have loaded : (new .reject).Undergoes
      ⟨.open, some ⟨3⟩, ⟨.insert .empty ⟨0⟩ ⟨⟨0⟩, ⟨[]⟩, 60⟩⟩, .empty .reject, []⟩ :=
    opened.run ⟨"", []⟩ (Reluctant.mk 2) (.load ⟨[]⟩ 60) (by decide)
  have bound : (new .reject).Undergoes
      ⟨.open, some ⟨3⟩, ⟨.insert .empty ⟨0⟩ ⟨⟨0⟩, ⟨[]⟩, 60⟩⟩,
        .insert (.empty .reject) ⟨0, 0⟩ ⟨10, 20, ⟨0⟩, by decide, by decide⟩, []⟩ :=
    loaded.run ⟨"", []⟩ (Reluctant.mk 3) (.bind ⟨0, 0⟩ 10 20 ⟨0⟩) (by decide)
  have closed : (new .reject).Undergoes ⟨.closed, none, .empty, ⟨.reject, .empty, 1⟩, []⟩ :=
    bound.run ⟨"", []⟩ (Reluctant.mk 4) .close (by decide)
  refine ⟨closed, rfl, fun t further => ?_, ?_⟩
  · exact ((lifecycle_of_undergoes closed).onward t further).eq_closed
  · exact (lifecycle_of_undergoes closed).refuses (by decide) _ _ _ nofun

end Synth

end SampleBank
