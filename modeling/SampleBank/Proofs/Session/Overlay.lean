import SampleBank.Proofs.Session.KeyMap
import SampleBank.Proofs.Session.Ownership

/-!
# Binding as an update of a map

Seen through its lookups, a synthesizer maps the keys of each program to samples. A binding that
succeeds lays a sample over the keys that it names and leaves all others alone (`Synth.Overlaid`),
however many ranges were bound and unbound there before. Under `reject` it covers nothing up, as
every one of its keys was free.

Why the new range wins is a matter of the key map (`Router.resolve_insert`), and that the sample is
found in the store one of the synthesizer (`Synth.Coherent`). Neither depends on the engine, so
`Session.overlaid_of_bind` also holds where others call the engine directly.
-/

namespace SampleBank

/-- One synthesizer answers lookups as another one does, but with a sample laid over the keys from
`lokey` to `hikey` of a program. -/
structure Synth.Overlaid (s t : Synth) (p : Program) (lokey hikey : UInt8) (sample : Sample) :
    Prop where
  covered : ∀ key, lokey ≤ key → key ≤ hikey → t.resolve p key = .ok (some sample)
  elsewhere : ∀ q key, ¬(q = p ∧ lokey ≤ key ∧ key ≤ hikey) → t.resolve q key = s.resolve q key
  /-- Whatever is valid has an answer, before and after. -/
  answered : ∀ q key, q.Valid → key ≤ maxKey →
    ∃ before after, s.resolve q key = .ok before ∧ t.resolve q key = .ok after
  /-- Under `reject` none of the keys had a sample. -/
  free : s.router.policy = .reject → ∀ key, lokey ≤ key → key ≤ hikey → s.resolve p key = .ok none

/-- A range that has passed the check lies over what its key map had before. -/
theorem Synth.Coherent.overlaid {s : Synth} (c : s.Coherent) (opened : s.phase = .open)
    {p : Program} {range : KeyRange} {sample : Sample}
    (found : s.store.lookup range.sample = some sample)
    (passed : s.router.check p range = .ok ()) :
    s.Overlaid { s with router := s.router.insert p range } p range.lokey range.hikey sample := by
  have valid := (Router.check_eq_ok_iff.1 passed).1
  have key_le {key : UInt8} (below : key ≤ range.hikey) : key ≤ maxKey :=
    UInt8.le_trans below range.hikey_le_maxKey
  obtain ⟨native, plays⟩ := c.handle.exists_playsOn opened
  have plays' : PlaysOn { s with router := s.router.insert p range } native := plays
  have after {q : Program} {key : UInt8} (hq : q.Valid) (hk : key ≤ maxKey) :=
    plays'.resolve_eq hq hk
  refine ⟨?_, ?_, ?_, ?_⟩
  · intro key above below
    rw [after valid (key_le below), Router.resolve_insert c.inOrder,
      if_pos ⟨rfl, KeyRange.covers_iff.2 ⟨above, below⟩⟩, Option.bind_some, found]
  · intro q key outside
    have missed : ¬(q = p ∧ range.covers key = true) := fun hit =>
      outside ⟨hit.1, KeyRange.covers_iff.1 hit.2⟩
    have same : (s.router.insert p range).resolve q key = s.router.resolve q key := by
      rw [Router.resolve_insert c.inOrder, if_neg missed]
    rw [Synth.resolve, Synth.resolve, same]
    rfl
  · intro q key hq hk
    exact ⟨_, _, plays.resolve_eq hq hk, after hq hk⟩
  · intro reject key above below
    have unbound := Router.resolve_eq_none_of_check c.inOrder reject passed
      (KeyRange.covers_iff.2 ⟨above, below⟩)
    rw [plays.resolve_eq valid (key_le below), unbound, Option.bind_none]

/-- The engine is asked in between, and whatever it does makes no difference to that. -/
theorem Rig.overlaid_of_bind_ok {r r' : Rig Engine} {p : Program} {lokey hikey : UInt8}
    {h : SampleHandle} {range : KeyRange} (c : r.synth.Coherent)
    (bound : r.bind p lokey hikey h = (.ok range, r')) :
    ∃ sample, r.synth.store.lookup h = some sample ∧ sample.handle = h ∧
      r'.synth.store = r.synth.store ∧ r.synth.Overlaid r'.synth p lokey hikey sample := by
  obtain ⟨native, e', active, zone, held, passed, -, rfl⟩ := of_bind_ok bound
  obtain ⟨rfl, rfl, rfl⟩ := Zone.mk.inj zone
  obtain ⟨sample, found⟩ := Store.mem_handles_iff_lookup.1 held
  exact ⟨sample, found, c.keyed _ sample found, rfl,
    c.overlaid (active.opened) found passed⟩

namespace Session

variable {allowed : Command → Prop} {s : Session} {i : Nat} {synth : Synth} {p : Program}
  {lokey hikey : UInt8} {h : SampleHandle} {range : KeyRange}

/-- Whatever has happened in a session, also at its engine, a synthesizer that binds a sample plays
it on all of the keys, and on every other key what it has played before. -/
theorem overlaid_of_bind (reachable : s.Reachable allowed) (hs : s.synth? i = some synth)
    (fs : Files) (bound : (s.step fs (.synth i (.bind p lokey hikey h))).1 = .range range) :
    ∃ sample left, synth.store.lookup h = some sample ∧ sample.handle = h ∧
      (s.step fs (.synth i (.bind p lokey hikey h))).2.synth? i = some left ∧
        left.store = synth.store ∧ synth.Overlaid left p lokey hikey sample := by
  have after := synth?_step_synth hs fs (.bind p lokey hikey h)
  rw [Session.step, hs] at bound
  rcases asked : Rig.bind p lokey hikey h ⟨synth, s.engine⟩ with ⟨answer, r⟩
  simp only [runSynth, still, asked] at after bound
  cases answer with
  | error cause => cases bound
  | ok made =>
    obtain ⟨sample, found, own, store, overlaid⟩ :=
      Rig.overlaid_of_bind_ok (reachable.coherent hs) asked
    exact ⟨sample, r.synth, found, own, after, store, overlaid⟩

/-- A synthesizer whose later ranges shadow earlier ones. Its second sample was unbound and bound
again, and someone has detached the first one at the engine. -/
def shadowed : Session :=
  run ⟨"", []⟩ (.new (.mock (.new "shadowed")))
    [.startedSynth .lastWins, .synth 0 (.load ⟨[]⟩ 60), .synth 0 (.load ⟨[]⟩ 64),
      .synth 0 (.bind ⟨0, 0⟩ 10 30 ⟨0⟩), .synth 0 (.bind ⟨0, 0⟩ 20 40 ⟨1⟩),
      .synth 0 (.unbind ⟨0, 0⟩ ⟨1⟩), .synth 0 (.bind ⟨0, 0⟩ 25 50 ⟨1⟩),
      .engine (.unbind ⟨0⟩ ⟨0⟩ ⟨0, 0⟩)]

/-- The second sample takes keys from the first one, which keeps those below. Where overlaps are
refused, keys between two ranges can be bound as they were free. -/
theorem overlaid_shadowed :
    (∃ sample left before, shadowed.synth? 0 = some before ∧
      (shadowed.step ⟨"", []⟩ (.synth 0 (.bind ⟨0, 0⟩ 15 35 ⟨1⟩))).2.synth? 0 = some left ∧
        sample.handle = ⟨1⟩ ∧ left.resolve ⟨0, 0⟩ 15 = .ok (some sample) ∧
          left.resolve ⟨0, 0⟩ 14 = before.resolve ⟨0, 0⟩ 14 ∧
            before.resolve ⟨0, 0⟩ 14 = .ok (some ⟨⟨0⟩, ⟨[]⟩, 60⟩)) ∧
    ∃ before, busyPair.synth? 0 = some before ∧ before.resolve ⟨0, 0⟩ 25 = .ok none := by
  have reachable : shadowed.Reachable fun _ => True :=
    (Reachable.mock "shadowed").run _ fun _ _ => trivial
  have bound : (shadowed.step ⟨"", []⟩ (.synth 0 (.bind ⟨0, 0⟩ 15 35 ⟨1⟩))).1 =
      .range ⟨15, 35, ⟨1⟩, by decide, by decide⟩ := by decide
  have between : (busyPair.step ⟨"", []⟩ (.synth 0 (.bind ⟨0, 0⟩ 21 29 ⟨1⟩))).1 =
      .range ⟨21, 29, ⟨1⟩, by decide, by decide⟩ := by decide
  obtain ⟨sample, left, -, own, after, -, overlaid⟩ := overlaid_of_bind reachable rfl _ bound
  obtain ⟨_, _, -, -, -, -, apart⟩ := overlaid_of_bind reachable_busyPair rfl _ between
  refine ⟨⟨sample, left, _, rfl, after, own, ?_, ?_, by decide⟩, _, rfl, ?_⟩
  · exact overlaid.covered 15 (by decide) (by decide)
  · exact overlaid.elsewhere ⟨0, 0⟩ 14 (by decide)
  · exact apart.free rfl 25 (by decide) (by decide)

end Session

end SampleBank
