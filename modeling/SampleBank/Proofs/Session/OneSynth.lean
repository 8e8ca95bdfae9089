import SampleBank.Proofs.Engine.Health
import SampleBank.Proofs.Session.Sharing
import SampleBank.Proofs.Synth.Lifecycle

/-!
# One synth on a RAM engine

A RAM engine has one place for a synth and gives out a new handle each time, so a handle that is
not that of its synth, an old one for example, stands for nothing any more: whatever is called with
it does nothing (`Ram.Powerless`). A late call of a synthesizer that was closed, or that others
have destroyed, does not reach the synth that somebody else has by now.

In a session whose engine is called by stores and synthesizers only, the engine's synths are those
of the open synthesizers. So at most one of these is open, and another can be opened as soon as
none is (`Session.OneOpen`).
-/

namespace SampleBank

namespace Ram

/-- Under this handle nothing can be done at the engine, and nothing can be read. -/
structure Powerless (r : Ram) (native : SynthHandle) : Prop where
  destroy : r.destroySynth native = r
  bind : ∀ sample p lokey hikey, ∃ cause, r.bind native sample p lokey hikey = (.error cause, r)
  unbind : ∀ sample p, ∃ cause, r.unbind native sample p = (.error cause, r)
  loadSoundFont : ∀ fs path, ∃ cause, r.loadSoundFont fs native path = (.error cause, r)
  zones : ∀ p, r.zones native p = []
  selected : r.selected? native = none
  fonts : r.fonts native = []

/-- A RAM engine has room for one synth, and no handle but that of its synth is of any use. -/
structure OneSynth (log : CallLog) (r : Ram) : Prop where
  creates : (∃ native, r.createSynth.1 = .ok native) ↔ log.synthsLeft = []
  ascending : log.synthsCreated.Pairwise (·.id < ·.id)
  powerless : ∀ native, native ∉ log.synthsLeft → r.Powerless native

variable {r : Ram} {native : SynthHandle} {log : CallLog}

/-- A call that cannot succeed is refused, and leaves no trace. -/
private theorem exists_refusal {α : Type} {call : Except EngineError α × Ram}
    (kept : ∀ {cause r'}, call = (.error cause, r') → r' = r)
    (never : ∀ a r', call ≠ (.ok a, r')) : ∃ cause, call = (.error cause, r) := by
  obtain ⟨answer, r'⟩ := call
  cases answer with
  | error cause => exact ⟨cause, by rw [kept rfl]⟩
  | ok a => exact absurd rfl (never a r')

/-- What a call would need is the synth with its handle. -/
theorem powerless_of_absent (absent : r.synth? native = none) : r.Powerless native where
  destroy := by
    rw [destroySynth, absent]
    rfl
  bind sample p lokey hikey := by
    refine exists_refusal eq_of_bind_error fun _ _ agreed => ?_
    obtain ⟨s, -, -, found, -⟩ := of_bind_ok agreed
    cases absent.symm.trans found
  unbind sample p := by
    refine exists_refusal eq_of_unbind_error fun _ _ agreed => ?_
    obtain ⟨s, zones, found, -⟩ := of_unbind_ok agreed
    cases absent.symm.trans found
  loadSoundFont fs path := by
    refine exists_refusal eq_of_loadSoundFont_error fun _ _ agreed => ?_
    obtain ⟨s, found, -⟩ := of_loadSoundFont_ok agreed
    cases absent.symm.trans found
  zones p := by
    rw [zones, absent]
    rfl
  selected := by
    rw [selected?, absent]
    rfl
  fonts := by
    rw [fonts, absent]
    rfl

theorem exists_createSynth_ok_iff : (∃ native, r.createSynth.1 = .ok native) ↔ r.synth = none := by
  constructor
  · rintro ⟨native, created⟩
    exact (of_createSynth_ok (Prod.ext created rfl)).1
  · intro no_synth
    rw [createSynth, no_synth]
    exact ⟨_, rfl⟩

theorem Books.oneSynth (b : r.Books log) : r.OneSynth log where
  creates := by
    rw [exists_createSynth_ok_iff, b.synths, Option.toList_eq_nil_iff, Option.map_eq_none_iff]
  ascending := List.pairwise_map.1 b.created.ascending
  powerless native gone := by
    refine powerless_of_absent (Option.eq_none_iff_forall_ne_some.2 fun s found => gone ?_)
    obtain ⟨synth, rfl⟩ := synth?_eq_some_iff.1 found
    rw [b.synths, synth]
    exact List.mem_singleton_self _

end Ram

namespace Session

/-- No synthesizer of a session is open. -/
def NoneOpen (s : Session) : Prop := ∀ i synth, s.synth? i = some synth → synth.phase ≠ .open

/-- At most one synthesizer of a session is open, and another can be opened exactly when none is. -/
structure OneOpen (s : Session) : Prop where
  unique : ∀ i j a b, s.synth? i = some a → s.synth? j = some b →
    a.phase = .open → b.phase = .open → i = j
  starts : ∀ fs i synth, s.synth? i = some synth → synth.phase = .uninitialized →
    ((s.step fs (.synth i .start)).1 = .done ↔ s.NoneOpen)
  /-- A new synthesizer is opened at once. -/
  starts_new : ∀ fs policy,
    (∃ i, (s.step fs (.startedSynth policy)).1 = .created i) ↔ s.NoneOpen

variable {s : Session} {i j : Nat} {synth : Synth}

theorem Shared.synths_eq_nil_iff (sh : s.Shared) : s.engine.synths = [] ↔ s.NoneOpen := by
  constructor
  · intro none i synth here opened
    obtain ⟨native, active⟩ := (sh.handleAgrees here).exists_playsOn opened
    have own : native ∈ synth.handle?.toList := by
      rw [active.handle?]
      exact List.mem_singleton_self native
    have played := handle?_subset_playedBy (mem_filterMap_of_getElem? (getElem?_of_synth? here)) own
    have live := sh.played.mem_iff.1 played
    rw [none] at live
    cases live
  · intro idle
    have played : playedBy s.liveSynths = [] := by
      refine List.flatMap_eq_nil_iff.2 fun synth hs => ?_
      obtain ⟨i, here⟩ := exists_place_of_mem hs
      rw [(sh.handleAgrees here).handle?_eq_none (idle i synth here)]
      rfl
    exact List.nil_perm.1 (played ▸ sh.played)

/-- Two open synthesizers would play on two synths. -/
theorem Shared.eq_of_open (sh : s.Shared) (one : s.engine.synths.length ≤ 1) {a b : Synth}
    (ha : s.synth? i = some a) (hb : s.synth? j = some b) (open_a : a.phase = .open)
    (open_b : b.phase = .open) : i = j := by
  by_contra ne
  obtain ⟨native, active⟩ := (sh.handleAgrees ha).exists_playsOn open_a
  obtain ⟨native', active'⟩ := (sh.handleAgrees hb).exists_playsOn open_b
  have played := (sh.front_synth ha).played.length_eq
  have other : native' ∈ playedBy (others s.synths i) := by
    refine handle?_subset_playedBy (mem_others (Ne.symm ne) (getElem?_of_synth? hb)) ?_
    rw [active'.handle?]
    exact List.mem_singleton_self native'
  have some_other := List.length_pos_of_mem other
  rw [playedBy, List.flatMap_cons, active.handle?, List.length_append] at played
  simp only [Option.toList_some, List.length_singleton] at played
  rw [playedBy] at some_other
  omega

/-- A synthesizer can be opened when the engine has a synth for it. -/
theorem start_eq_ok_iff (new : synth.phase = .uninitialized) (e : Engine) :
    (Rig.start ⟨synth, e⟩).1 = .ok () ↔ ∃ native, e.createSynth.1 = .ok native := by
  rcases asked : e.createSynth with ⟨answer, e'⟩
  cases answer with
  | error cause =>
    rw [Synth.start_of_refused new asked]
    exact ⟨nofun, nofun⟩
  | ok native =>
    rw [Synth.start_of_created new asked]
    exact ⟨fun _ => ⟨native, rfl⟩, fun _ => rfl⟩

theorem step_start_eq_done_iff (hs : s.synth? i = some synth) (fs : Files) :
    (s.step fs (.synth i .start)).1 = .done ↔ (Rig.start ⟨synth, s.engine⟩).1 = .ok () := by
  rw [step, hs]
  change outcome (fun _ => .done) (Rig.start ⟨synth, s.engine⟩).1 = .done ↔ _
  cases (Rig.start ⟨synth, s.engine⟩).1 with
  | error cause => exact iff_of_false (by rintro ⟨⟩) (by rintro ⟨⟩)
  | ok _ => exact ⟨fun _ => rfl, fun _ => rfl⟩

theorem step_startedSynth_eq_created_iff (s : Session) (fs : Files) (policy : OverlapPolicy) :
    (∃ i, (s.step fs (.startedSynth policy)).1 = .created i) ↔
      (Rig.start ⟨.new policy, s.engine⟩).1 = .ok () := by
  rw [step]
  rcases Rig.start ⟨.new policy, s.engine⟩ with ⟨answer, r⟩
  cases answer with
  | error cause => exact iff_of_false (by rintro ⟨_, ⟨⟩⟩) (by rintro ⟨⟩)
  | ok _ => exact ⟨fun _ => rfl, fun _ => ⟨_, rfl⟩⟩

theorem Shared.oneOpen (sh : s.Shared) {r : Ram} (ram : s.engine = .ram r) : s.OneOpen := by
  have free : (∃ native, s.engine.createSynth.1 = .ok native) ↔ s.NoneOpen := by
    rw [← sh.synths_eq_nil_iff, ram, Engine.synths, Option.toList_eq_nil_iff,
      Option.map_eq_none_iff]
    exact Ram.exists_createSynth_ok_iff
  refine ⟨fun i j a b => sh.eq_of_open ?_, fun fs i synth hs new => ?_, fun fs policy => ?_⟩
  · rw [ram]
    exact Option.length_toList_le
  · rw [step_start_eq_done_iff hs, start_eq_ok_iff new, free]
  · rw [step_startedSynth_eq_created_iff, start_eq_ok_iff rfl, free]

/-- However a RAM engine is called, it has one synth at most, and other handles are of no use there.
However stores and synthesizers use it, one synthesizer at most is open. -/
theorem oneSynth_and_oneOpen :
    (∀ maxSamples sampleRate log e, (Engine.ram (.new maxSamples sampleRate)).Serves log e →
      ∃ r, e = .ram r ∧ r.OneSynth log) ∧
    ∀ s : Session, s.Reachable Command.Mediated → ∀ r, s.engine = .ram r → s.OneOpen := by
  refine ⟨fun maxSamples sampleRate log e served => ?_, fun s reachable r ram => ?_⟩
  · obtain ⟨r, eq, -, books⟩ := served.ram_books
    exact ⟨r, eq, books.oneSynth⟩
  · exact reachable.shared.oneOpen ram

/-- Two synthesizers on a RAM engine, the first of them open. -/
def rivals : Session :=
  run ⟨"", []⟩ (.new (.ram (.new 2 44100)))
    [.newSynth .reject, .newSynth .reject, .synth 0 .start]

/-- The handle of a synth that was destroyed is of no use when there is another. The second of two
synthesizers is refused as long as the first is open. -/
theorem oneOpen_rivals :
    (∃ r, (Engine.serve Engine.soundFiles Engine.unruly ([], .ram (.new 2 44100))).2 = .ram r ∧
      r.Powerless ⟨0⟩ ∧ ¬∃ native, r.createSynth.1 = .ok native) ∧
    (rivals.step ⟨"", []⟩ (.synth 1 .start)).1 ≠ .done ∧
      ((rivals.step ⟨"", []⟩ (.synth 0 .close)).2.step ⟨"", []⟩ (.synth 1 .start)).1 = .done := by
  have ⟨engine, session⟩ := oneSynth_and_oneOpen
  have reachable : rivals.Reachable Command.Mediated := (Reachable.ram 2 44100).run _ (by decide)
  refine ⟨?_, fun done => ?_, ?_⟩
  · obtain ⟨r, eq, one⟩ := engine 2 44100 _ _ (.serve .start Engine.soundFiles Engine.unruly)
    exact ⟨r, eq, one.powerless ⟨0⟩ (by decide +kernel), mt one.creates.1 (by decide +kernel)⟩
  · have none_open := ((session rivals reachable _ rfl).starts _ 1 _ rfl (by decide)).1 done
    exact none_open 0 _ rfl (by decide)
  · have closed := reachable.step (c := .synth 0 .close) ⟨"", []⟩ trivial
    have left : (rivals.step ⟨"", []⟩ (.synth 0 .close)).2.engine =
      .ram ⟨2, 44100, none, 1, .empty⟩ := by decide +kernel
    refine ((session _ closed _ left).starts _ 1 _ rfl (by decide)).2 fun i synth hs => ?_
    match i with
    | 0 | 1 => exact Option.some.inj hs ▸ by decide
    | i + 2 => cases hs

end Session

end SampleBank
