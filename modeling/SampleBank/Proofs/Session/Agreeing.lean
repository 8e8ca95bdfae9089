import SampleBank.Proofs.Session.Sharing
import SampleBank.Proofs.Synth.Changes
import SampleBank.Proofs.Synth.Willing

/-!
# What a RAM engine agrees to

A RAM engine has reasons of its own to refuse a binding: a sample or synth that it does not have,
keys in the wrong order, and for a detaching also that there is no zone. In a session whose engine
is called by stores and synthesizers only, an open synthesizer never meets them. It checks the keys
itself, its synth is there as long as it is open, what its store holds is live, and where its key
map has a range of a sample the engine has a zone of it. So whether a sample can be bound or unbound
depends on the synthesizer alone, and can be said without the engine (`Synth.Admits`,
`Rig.Agreeing`).
-/

namespace SampleBank

/-- What a synthesizer needs to bind a sample: keys in order, a program, the sample, and under
`reject` no range in the program that has a key in common. -/
structure Synth.Admits (s : Synth) (p : Program) (lokey hikey : UInt8) (h : SampleHandle) :
    Prop where
  ordered : lokey ≤ hikey
  valid : hikey ≤ maxKey
  program : p.Valid
  held : h ∈ s.store.handles
  free : s.router.policy = .reject → ∀ range ∈ s.router.ranges p, ∀ key,
    lokey ≤ key → key ≤ hikey → range.covers key = false

/-- The engine is no obstacle to a synthesizer that binds and unbinds. -/
structure Rig.Agreeing (r : Rig Engine) : Prop where
  bind : ∀ p lokey hikey h,
    (∃ range, (r.bind p lokey hikey h).1 = .ok range) ↔ r.synth.Admits p lokey hikey h
  bind_error : ∀ p lokey hikey h e, (r.bind p lokey hikey h).1 = .error e → e.engine? = none
  unbind : ∀ p h, (r.unbind p h).1 = .ok () ↔
    p.Valid ∧ ∃ range ∈ r.synth.router.ranges p, range.sample = h
  /-- What is unbound are the ranges of the sample in the program, and no others. -/
  unbound : ∀ p h r', r.unbind p h = (.ok (), r') → ∀ q, r'.synth.router.ranges q =
    if q = p then (r.synth.router.ranges p).filter (·.sample ≠ h) else r.synth.router.ranges q
  /-- Either the program is not valid or the sample is not bound there. -/
  unbind_error : ∀ p h e, (r.unbind p h).1 = .error e →
    (∃ cause, e = .invalidArgument cause) ∨ e = .notFound (.notBound h p)

/-! ### What the synthesizer checks -/

namespace Synth

variable {s : Synth} {p : Program} {lokey hikey : UInt8} {h : SampleHandle}

/-- The checks before the engine is asked let through what the synthesizer admits. -/
theorem exists_checkBind_ok_iff :
    (∃ range, s.checkBind p lokey hikey h = .ok range) ↔ s.Admits p lokey hikey h := by
  constructor
  · rintro ⟨range, checked⟩
    obtain ⟨zone, held, passed⟩ := of_checkBind_ok checked
    obtain ⟨-, rfl, rfl⟩ := Zone.mk.inj zone
    obtain ⟨program, apart⟩ := Router.check_eq_ok_iff.1 passed
    refine ⟨range.lokey_le_hikey, range.hikey_le_maxKey, program, held,
      fun reject bound hb key above below => ?_⟩
    -- a key in both would make them overlap
    rw [← Bool.not_eq_true]
    intro covered
    have overlaps : bound.overlaps range = true :=
      KeyRange.overlaps_iff_exists_covers.2 ⟨key, covered, KeyRange.covers_iff.2 ⟨above, below⟩⟩
    rw [apart reject bound hb] at overlaps
    cases overlaps
  · intro admits
    let range : KeyRange := ⟨lokey, hikey, h, admits.ordered, admits.valid⟩
    have made : KeyRange.make? lokey hikey h = .ok range :=
      KeyRange.make?_eq_ok_iff.2 ⟨rfl, rfl, rfl⟩
    have passed : s.router.check p range = .ok () := by
      refine Router.check_eq_ok_iff.2 ⟨admits.program, fun reject bound hb => ?_⟩
      rw [← Bool.not_eq_true, KeyRange.overlaps_iff_exists_covers]
      rintro ⟨key, covered, own⟩
      have ⟨above, below⟩ := KeyRange.covers_iff.1 own
      rw [admits.free reject bound hb key above below] at covered
      cases covered
    refine ⟨range, ?_⟩
    rw [checkBind, made]
    simp only [checkProgram_eq_ok_iff.2 admits.program, Store.mem_handles_iff.1 admits.held,
      if_true, passed]

/-- None of the checks asks the engine. -/
theorem engine?_of_checkBind_error {e : Error} (refused : s.checkBind p lokey hikey h = .error e) :
    e.engine? = none := by
  rw [checkBind] at refused
  split at refused
  · cases refused
    rfl
  · split at refused
    · cases refused
      rfl
    · split at refused
      · split at refused
        · rename_i cause _
          cases refused
          cases cause with
          | argument | overlap => rfl
        · cases refused
      · cases refused
        rfl

end Synth

/-! ### What the engine is asked -/

namespace Rig

variable {rest : List SampleHandle} {others : List SynthHandle} {r : Rig Engine} {ram : Ram}
  {native : SynthHandle} {p : Program} {h : SampleHandle} {lokey hikey : UInt8}

/-- What has passed the checks is bound. -/
theorem exists_bind_eq_ok (b : r.Beside rest others) (active : r.synth.PlaysOn native)
    (he : r.engine = .ram ram) {range : KeyRange}
    (checked : r.synth.checkBind p lokey hikey h = .ok range) :
    ∃ r', r.bind p lokey hikey h = (.ok range, r') := by
  obtain ⟨zone, held, passed⟩ := Synth.of_checkBind_ok checked
  obtain ⟨-, rfl, rfl⟩ := Zone.mk.inj zone
  have made := KeyRange.make?_eq_ok_iff.2 ⟨rfl, rfl, congrArg Zone.sample zone⟩
  have live := b.store.held_live held
  have synth := b.synth_mem active
  rw [he] at live synth
  obtain ⟨s, found⟩ := Engine.mem_synths_ram_iff.1 synth
  have agreed := Ram.bind_eq_ok (SortedMap.mem_keys_iff.1 live) range.lokey_le_hikey found p
  have asked : ∃ ram', r.engine.bind native h p range.lokey range.hikey = (.ok (), .ram ram') := by
    rw [he, Engine.bind, agreed]
    exact ⟨_, rfl⟩
  obtain ⟨ram', asked⟩ := asked
  exact ⟨_, bind_eq_ok active made held passed asked⟩

/-- What the key map has is unbound, as the engine has it too. -/
theorem exists_unbind_eq_ok (b : r.Beside rest others) (active : r.synth.PlaysOn native)
    (he : r.engine = .ram ram) (valid : p.Valid) (bound : r.synth.router.isBound p h = true) :
    ∃ r', r.unbind p h = (.ok (), r') := by
  obtain ⟨range, hr, own⟩ := List.any_eq_true.1 bound
  obtain rfl := of_decide_eq_true own
  have live := b.store.held_live (b.mirrored.loaded p range hr)
  have synth := b.synth_mem active
  have zone : range.zone ∈ r.engine.zones native p := by
    rw [b.mirrored.zones native active]
    exact List.mem_map_of_mem hr
  rw [he] at live synth zone
  obtain ⟨s, found⟩ := Engine.mem_synths_ram_iff.1 synth
  rw [Engine.zones, Ram.zones, found, Option.bind_some] at zone
  cases there : s.zones.find? p with
  | none =>
    rw [there] at zone
    cases zone
  | some zones =>
    rw [there] at zone
    obtain ⟨ram', agreed⟩ := Ram.exists_unbind_eq_ok (SortedMap.mem_keys_iff.1 live) found there
      ⟨range.zone, zone, rfl⟩
    have asked : r.engine.unbind native range.sample p = (.ok (), .ram ram') := by
      rw [he, Engine.unbind, agreed]
      rfl
    exact ⟨_, unbind_eq_ok (Synth.native_eq_ok_iff.2 active) valid bound asked⟩

/-- Before the engine is asked, the program is checked and the sample looked up in the key map. -/
theorem unbind_refused (active : r.synth.PlaysOn native)
    (missing : ¬(p.Valid ∧ r.synth.router.isBound p h = true)) :
    ∃ e, r.unbind p h = (.error e, r) ∧
      ((∃ cause, e = .invalidArgument cause) ∨ e = .notFound (.notBound h p)) := by
  rw [unbind, Synth.native_eq_ok_iff.2 active]
  cases checked : checkProgram p with
  | error cause => exact ⟨_, rfl, .inl ⟨cause, rfl⟩⟩
  | ok _ =>
    have unbound : ¬r.synth.router.isBound p h = true := fun bound =>
      missing ⟨checkProgram_eq_ok_iff.1 checked, bound⟩
    simp only [if_neg unbound]
    exact ⟨_, rfl, .inr rfl⟩

theorem agreeing (b : r.Beside rest others) (active : r.synth.PlaysOn native)
    (he : r.engine = .ram ram) : r.Agreeing where
  bind p lokey hikey h := by
    rw [← Synth.exists_checkBind_ok_iff]
    constructor
    · rintro ⟨range, bound⟩
      cases checked : r.synth.checkBind p lokey hikey h with
      | ok range => exact ⟨range, rfl⟩
      | error e =>
        rw [bind_eq active, checked] at bound
        cases bound
    · rintro ⟨range, checked⟩
      obtain ⟨r', bound⟩ := exists_bind_eq_ok b active he checked
      exact ⟨range, by rw [bound]⟩
  bind_error p lokey hikey h e failed := by
    cases checked : r.synth.checkBind p lokey hikey h with
    | ok range =>
      obtain ⟨r', bound⟩ := exists_bind_eq_ok b active he checked
      rw [bound] at failed
      cases failed
    | error cause =>
      rw [bind_eq active, checked] at failed
      exact Except.error.inj failed ▸ Synth.engine?_of_checkBind_error checked
  unbind p h := by
    have bound_iff : (∃ range ∈ r.synth.router.ranges p, range.sample = h) ↔
        r.synth.router.isBound p h = true := by
      simp only [Router.isBound, List.any_eq_true, decide_eq_true_eq]
    rw [bound_iff]
    by_cases found : p.Valid ∧ r.synth.router.isBound p h = true
    · obtain ⟨r', unbound⟩ := exists_unbind_eq_ok b active he found.1 found.2
      exact ⟨fun _ => found, fun _ => by rw [unbound]⟩
    · obtain ⟨e, refused, -⟩ := unbind_refused active found
      refine ⟨fun unbound => ?_, fun here => absurd here found⟩
      rw [refused] at unbound
      cases unbound
  unbound p h r' unbound q := by
    obtain ⟨native', e', -, -, -, rfl⟩ := of_unbind_ok unbound
    exact Router.ranges_remove
  unbind_error p h e failed := by
    by_cases found : p.Valid ∧ r.synth.router.isBound p h = true
    · obtain ⟨r', unbound⟩ := exists_unbind_eq_ok b active he found.1 found.2
      rw [unbound] at failed
      cases failed
    · obtain ⟨cause, refused, why⟩ := unbind_refused active found
      rw [refused] at failed
      exact Except.error.inj failed ▸ why

end Rig

/-! ### In a session -/

namespace Session

variable {s : Session} {i : Nat} {synth : Synth} {ram : Ram}

/-- Wherever stores and synthesizers take a session by themselves, an open synthesizer on a RAM
engine binds and unbinds whatever it admits itself. -/
theorem agreeing_of_ram (reachable : s.Reachable Command.Mediated)
    (hs : s.synth? i = some synth) (opened : synth.phase = .open) (he : s.engine = .ram ram) :
    Rig.Agreeing ⟨synth, s.engine⟩ := by
  obtain ⟨native, active⟩ := (reachable.shared.handleAgrees hs).exists_playsOn opened
  exact Rig.agreeing (reachable.shared.front_synth hs).rig_beside active he

open Engine (soundFiles wavePath)

/-- A synthesizer on a RAM engine with a sample that is bound to the keys from 10 to 20. -/
def soloRam : Session :=
  run soundFiles (.new (.ram (.new 2 44100)))
    [.startedSynth .reject, .synth 0 (.load wavePath 60), .synth 0 (.bind ⟨0, 0⟩ 10 20 ⟨0⟩)]

/-- The sample can be bound to the keys above, but not to one key more, and it can be unbound. -/
theorem agreeing_soloRam :
    ∃ synth, soloRam.synth? 0 = some synth ∧
      let r : Rig Engine := ⟨synth, soloRam.engine⟩
      (∃ range, (r.bind ⟨0, 0⟩ 21 127 ⟨0⟩).1 = .ok range) ∧
        (¬∃ range, (r.bind ⟨0, 0⟩ 20 127 ⟨0⟩).1 = .ok range) ∧
          (r.unbind ⟨0, 0⟩ ⟨0⟩).1 = .ok () := by
  let range : KeyRange := ⟨10, 20, ⟨0⟩, by decide, by decide⟩
  let synth : Synth := ⟨.open, some ⟨0⟩, ⟨SortedMap.empty.insert ⟨0⟩ ⟨⟨0⟩, wavePath, 60⟩⟩,
    (Router.empty .reject).insert ⟨0, 0⟩ range, []⟩
  let native : RamSynth :=
    ⟨⟨0⟩, SortedMap.empty.insert ⟨0, 0⟩ [range.zone], some ⟨0, 0⟩, []⟩
  let ram : Ram :=
    ⟨2, 44100, some native, 1, SortedMap.empty.insert ⟨0⟩ ⟨wavePath, 60, [7]⟩⟩
  have state : soloRam = ⟨.ram ram, [], [some synth]⟩ := by decide +kernel
  have reachable : soloRam.Reachable Command.Mediated := (Reachable.ram 2 44100).run _ (by decide)
  have first : soloRam.synth? 0 = some synth := by rw [state]; rfl
  have engine : soloRam.engine = .ram ram := by rw [state]
  have agreeing := agreeing_of_ram reachable first rfl engine
  refine ⟨synth, first, (agreeing.bind _ _ _ _).2 ?_, fun bound => ?_,
    (agreeing.unbind _ _).2 ⟨by decide, range, List.mem_singleton_self _, rfl⟩⟩
  · refine ⟨by decide, by decide, by decide, by decide, fun _ bound hb key above _ => ?_⟩
    rw [List.mem_singleton.1 hb, ← Bool.not_eq_true]
    intro covered
    exact absurd (UInt8.le_trans above (KeyRange.covers_iff.1 covered).2) (by decide)
  · have free := ((agreeing.bind _ _ _ _).1 bound).free rfl range (List.mem_singleton_self _) 20
    exact absurd (free (by decide) (by decide)) (by decide)

end Session

end SampleBank
