import SampleBank.Proofs.Session.Sharing
import SampleBank.Proofs.Synth.KeyMap
import SampleBank.Proofs.Synth.Lifecycle

/-!
# Synthesizers and key maps in a session

Every synthesizer of a session was new once and has undergone operations since, each with the engine
as others have left it (`Session.Reachable.undergoes`). So what every new synthesizer has and every
operation keeps, whatever the engine it is given, holds of all synthesizers of a session. Nothing is
asked of the engine there, and others may call it directly.

That a key map goes through its check is such a property. `unambiguous_of_reject` joins it to
`Router.Becomes.unambiguous`: a key map that refuses overlaps has none, on its own or in a
synthesizer.
-/

namespace SampleBank

namespace Session

variable {allowed : Command → Prop} {s : Session} {i : Nat} {synth left : Synth} {fs : Files}
  {c : Command}

/-- A synthesizer that is there after a command was there before, or is new, or is what an operation
has left of one of these. -/
theorem origin_of_mem_step (h : some left ∈ (s.step fs c).2.synths) :
    (some left ∈ s.synths ∨ ∃ policy, left = .new policy) ∨
      ∃ (r : Rig Engine) (command : SynthCommand),
        (some r.synth ∈ s.synths ∨ ∃ policy, r.synth = .new policy) ∧
          (runSynth fs r command).2.1 = some left := by
  cases c with
  | engine command => exact .inl (.inl h)
  | setRefusal call on =>
    obtain ⟨engine, stores, synths⟩ := s
    cases engine with
    | ram r => exact .inl (.inl h)
    | mock m => exact .inl (.inl h)
  | newStore => exact .inl (.inl h)
  | store j command =>
    cases hs : s.store? j with
    | none =>
      rw [step, hs] at h
      exact .inl (.inl h)
    | some store =>
      rw [step_store_eq hs] at h
      exact .inl (.inl h)
  | newSynth policy =>
    rcases List.mem_append.1 h with before | joined
    · exact .inl (.inl before)
    · exact .inl (.inr ⟨policy, Option.some.inj (List.mem_singleton.1 joined)⟩)
  | startedSynth policy =>
    rw [step] at h
    rcases opened : Rig.start ⟨.new policy, s.engine⟩ with ⟨answer, r⟩
    rw [opened] at h
    cases answer with
    | error cause => exact .inl (.inl h)
    | ok _ =>
      rcases List.mem_append.1 h with before | joined
      · exact .inl (.inl before)
      · refine .inr ⟨⟨.new policy, s.engine⟩, .start, .inr ⟨policy, rfl⟩, ?_⟩
        rw [List.mem_singleton.1 joined, runSynth, still, opened]
  | synth j command =>
    cases hs : s.synth? j with
    | none =>
      rw [step, hs] at h
      exact .inl (.inl h)
    | some before =>
      rw [step_synth_eq hs] at h
      rcases List.mem_or_eq_of_mem_set h with other | own
      · exact .inl (.inl other)
      · have there : some before ∈ s.synths := List.mem_of_getElem? (getElem?_of_synth? hs)
        exact .inr ⟨⟨before, s.engine⟩, command, .inl there, own.symm⟩

theorem Reachable.undergoes (reachable : s.Reachable allowed) (hs : s.synth? i = some synth) :
    ∃ policy, (Synth.new policy).Undergoes synth := by
  have all : ∀ synth, some synth ∈ s.synths → ∃ policy, (Synth.new policy).Undergoes synth := by
    clear hs
    induction reachable with
    | ram | mock => exact nofun
    | step fs _ _ ih =>
      intro left h
      rcases origin_of_mem_step h with (before | ⟨policy, rfl⟩) | ⟨r, command, origin, ran⟩
      · exact ih left before
      · exact ⟨policy, .refl⟩
      · have before : ∃ policy, (Synth.new policy).Undergoes r.synth := by
          rcases origin with there | ⟨policy, eq⟩
          · exact ih r.synth there
          · exact ⟨policy, eq ▸ .refl⟩
        obtain ⟨policy, undergone⟩ := before
        exact ⟨policy, undergone.run fs r.engine command ran⟩
  exact all synth (List.mem_of_getElem? (getElem?_of_synth? hs))

theorem Reachable.coherent (reachable : s.Reachable allowed) (hs : s.synth? i = some synth) :
    synth.Coherent := by
  obtain ⟨policy, undergone⟩ := reachable.undergoes hs
  exact undergone.coherent

/-- The key map of a synthesizer has come to what it is by requests that go through its check. -/
theorem Reachable.router_becomes (reachable : s.Reachable allowed)
    (hs : s.synth? i = some synth) :
    (Router.empty synth.router.policy).Becomes synth.router := by
  obtain ⟨policy, undergone⟩ := reachable.undergoes hs
  have becomes : (Router.empty policy).Becomes synth.router := undergone.becomes.rebinds
  rw [becomes.policy]
  exact becomes

/-- Under `reject` no two ranges of a program share a key, whatever a key map was asked before and
whatever was done to the synthesizer that it belongs to, or to its engine. -/
theorem unambiguous_of_reject :
    (∀ r, (Router.empty .reject).Becomes r → r.Unambiguous) ∧
      ∀ (allowed : Command → Prop) (s : Session), s.Reachable allowed → ∀ i synth,
        s.synth? i = some synth → synth.router.policy = .reject → synth.router.Unambiguous := by
  refine ⟨fun r b => b.unambiguous, fun allowed s reachable i synth hs reject => ?_⟩
  have b := reachable.router_becomes hs
  rw [reject] at b
  exact b.unambiguous

/-- A key is free again when its range is unbound, and a range that asks for it passes the check.
The synthesizer's two ranges stay apart, with a free key between them. -/
theorem unambiguous_busyPair :
    (let before :=
        ((Router.empty .reject).serve (.bind ⟨0, 0⟩ 10 20 ⟨1⟩)).serve (.unbind ⟨0, 0⟩ ⟨1⟩)
      let again := before.serve (.insert ⟨0, 0⟩ ⟨20, 25, ⟨2⟩, by decide, by decide⟩)
      again.Unambiguous ∧ again.resolve ⟨0, 0⟩ 20 = some ⟨2⟩) ∧
    ∃ synth, busyPair.synth? 0 = some synth ∧ synth.router.Unambiguous ∧
      synth.router.resolve ⟨0, 0⟩ 25 = none ∧ synth.router.resolve ⟨0, 0⟩ 30 = some ⟨1⟩ := by
  have ⟨router, session⟩ := unambiguous_of_reject
  refine ⟨⟨router _ ?_, by decide⟩, _, rfl, ?_, by decide, by decide⟩
  · have bound := Router.Becomes.refl.serve (r := .empty .reject) (.bind ⟨0, 0⟩ 10 20 ⟨1⟩) trivial
    have unbound := bound.serve (.unbind ⟨0, 0⟩ ⟨1⟩) trivial
    exact unbound.serve (.insert ⟨0, 0⟩ ⟨20, 25, ⟨2⟩, by decide, by decide⟩) rfl
  · exact session _ _ reachable_busyPair 0 _ rfl rfl

end Session

end SampleBank
