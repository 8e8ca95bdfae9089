import SampleBank.Proofs.Synth.Mirror

/-!
# Synthesizers on an engine that refuses nothing

A mock engine without refusals agrees to every call about a synth that exists and a sample that is
live (`Engine.Willing`). On such an engine the operations of an open synthesizer fail for their
arguments only: a sample is loaded exactly when its root key is a key
(`Rig.exists_loadSample_ok_iff`), and a sample of the store is bound exactly when keys, program and
key map allow it (`Rig.exists_bind_ok_iff`). A successful operation leaves the synthesizer as it was
but for the one thing that it adds, and the engine as willing as before.
-/

namespace SampleBank

/-! ### The engine -/

namespace Engine

/-- A mock engine that refuses nothing. -/
def Willing : Engine → Prop
  | .ram _ => False
  | .mock m => m.refused = []

variable {e : Engine} {native : SynthHandle} {h : SampleHandle} {p : Program} {fs : Files}
  {path : FilePath} {lokey hikey rootKey : UInt8}

theorem willing_new_mock (name : String) : (mock (.new name)).Willing := rfl

/-- An engine that refuses nothing refuses no kind of call. -/
theorem refuses_eq_false {m : Mock} (w : (mock m).Willing) (call : MockCall) :
    m.refuses call = false := by
  rw [Mock.refuses, show m.refused = [] from w]
  rfl

theorem Willing.loadSample (w : e.Willing) (fs : Files) (path : FilePath) (rootKey : UInt8) :
    ∃ h e', e.loadSample fs path rootKey = (.ok h, e') ∧ e'.Willing := by
  cases e with
  | ram r => exact w.elim
  | mock m =>
    rw [Engine.loadSample, Mock.loadSample, refuses_eq_false w]
    exact ⟨_, _, rfl, w⟩

theorem Willing.bind (w : e.Willing) (synth : native ∈ e.synths) (live : h ∈ e.handles)
    (p : Program) (lokey hikey : UInt8) :
    ∃ e', e.bind native h p lokey hikey = (.ok (), e') ∧ e'.Willing := by
  cases e with
  | ram r => exact w.elim
  | mock m =>
    have exists_synth : m.synths.contains native = true := SortedMap.mem_keys_iff.1 synth
    have exists_sample : m.samples.contains h = true := SortedMap.mem_keys_iff.1 live
    rw [Engine.bind, Mock.bind, refuses_eq_false w, exists_synth, exists_sample]
    exact ⟨_, rfl, w⟩

theorem Willing.loadSoundFont (w : e.Willing) (synth : native ∈ e.synths) (fs : Files)
    (path : FilePath) :
    ∃ number e', e.loadSoundFont fs native path = (.ok number, e') ∧ e'.Willing := by
  cases e with
  | ram r => exact w.elim
  | mock m =>
    have exists_synth : m.synths.contains native = true := SortedMap.mem_keys_iff.1 synth
    rw [Engine.loadSoundFont, Mock.loadSoundFont, refuses_eq_false w, exists_synth]
    exact ⟨_, _, rfl, w⟩

end Engine

/-! ### The synthesizer -/

/-- The checks that a binding passes before the engine is asked: of its keys, its program, its
sample and the key map, in this order. -/
def Synth.checkBind (s : Synth) (p : Program) (lokey hikey : UInt8) (h : SampleHandle) :
    Except Error KeyRange :=
  match KeyRange.make? lokey hikey h with
  | .error cause => .error (.invalidArgument cause)
  | .ok range =>
    match checkProgram p with
    | .error cause => .error (.invalidArgument cause)
    | .ok () =>
      if s.store.contains h then
        match s.router.check p range with
        | .error e => .error (.ofRouter e)
        | .ok () => .ok range
      else .error (.notFound (.notLoaded h))

/-- What passes the checks has its keys in order and a sample of the store. -/
theorem Synth.of_checkBind_ok {s : Synth} {p : Program} {lokey hikey : UInt8} {h : SampleHandle}
    {range : KeyRange} (checked : s.checkBind p lokey hikey h = .ok range) :
    range.zone = ⟨h, lokey, hikey⟩ ∧ h ∈ s.store.handles ∧ s.router.check p range = .ok () := by
  rw [checkBind] at checked
  split at checked
  · cases checked
  · rename_i made_ok
    split at checked
    · cases checked
    · split at checked
      · rename_i held
        split at checked
        · cases checked
        · rename_i passed
          obtain rfl := Except.ok.inj checked
          obtain ⟨h_lokey, h_hikey, h_sample⟩ := KeyRange.make?_eq_ok_iff.1 made_ok
          exact ⟨by rw [KeyRange.zone, h_lokey, h_hikey, h_sample],
            Store.mem_handles_iff.2 held, passed⟩
      · cases checked

namespace Rig

variable {rest : List SampleHandle} {others : List SynthHandle} {r r' : Rig Engine} {fs : Files}
  {path : FilePath} {p : Program} {h : SampleHandle} {lokey hikey rootKey : UInt8}
  {native : SynthHandle} {sample : Sample} {range : KeyRange}

/-- An open synthesizer on an engine that refuses nothing. -/
structure Ready (rest : List SampleHandle) (others : List SynthHandle) (r : Rig Engine) : Prop where
  beside : r.Beside rest others
  willing : r.engine.Willing
  active : ∃ native, r.synth.PlaysOn native

/-- A synthesizer opened on a new mock engine. -/
def fresh (name : String) (policy : OverlapPolicy) : Rig Engine :=
  (start ⟨.new policy, .mock (.new name)⟩).2

theorem ready_fresh (name : String) (policy : OverlapPolicy) : (fresh name policy).Ready [] [] where
  beside := by
    have new := beside_new (Engine.sound_new_mock name) (.refl _) (.refl _) policy
    exact (moves_start new).beside
  willing := Engine.willing_new_mock name
  active := ⟨⟨0⟩, rfl, rfl⟩

/-- The key is looked at before the engine is asked, which always agrees. -/
theorem exists_loadSample_ok_iff (ready : r.Ready rest others) (fs : Files) (path : FilePath)
    (rootKey : UInt8) :
    (∃ sample, (r.loadSample fs path rootKey).1 = .ok sample) ↔ rootKey ≤ maxKey := by
  obtain ⟨native, active⟩ := ready.active
  obtain ⟨h, e', agreed, -⟩ := ready.willing.loadSample fs path rootKey
  by_cases valid : rootKey ≤ maxKey
  · rw [loadSample_eq_ok active valid agreed]
    exact ⟨fun _ => valid, fun _ => ⟨_, rfl⟩⟩
  · rw [loadSample_of_invalid active valid]
    refine ⟨?_, fun le => absurd le valid⟩
    rintro ⟨sample, failed⟩
    cases failed

theorem Ready.loadSample (ready : r.Ready rest others)
    (loaded : r.loadSample fs path rootKey = (.ok sample, r')) : r'.Ready rest others := by
  have moves := moves_loadSample ready.beside fs path rootKey
  rw [loaded] at moves
  obtain ⟨native, e', active, agreed, -, rfl⟩ := of_loadSample_ok loaded
  obtain ⟨_, _, again, willing⟩ := ready.willing.loadSample fs path rootKey
  obtain rfl := (Prod.mk.inj (agreed.symm.trans again)).2
  exact ⟨moves.beside, willing, native, active⟩

/-- An open synthesizer checks a binding and then asks the engine. -/
theorem bind_eq {E : Type} [SampleEngine E] {r : Rig E} (active : r.synth.PlaysOn native) :
    r.bind p lokey hikey h =
      match r.synth.checkBind p lokey hikey h with
      | .error e => (.error e, r)
      | .ok range =>
        match SampleEngine.bind native h p lokey hikey r.engine with
        | (.error cause, engine) =>
          (.error (.bind h p lokey hikey (.engine cause)), ⟨r.synth, engine⟩)
        | (.ok (), engine) =>
          (.ok range, ⟨{ r.synth with router := r.synth.router.insert p range }, engine⟩) := by
  rw [bind, Synth.checkBind, Synth.native_eq_ok_iff.2 active]
  cases KeyRange.make? lokey hikey h with
  | error cause => rfl
  | ok range =>
    cases checkProgram p with
    | error cause => rfl
    | ok _ =>
      simp only
      split
      · cases r.synth.router.check p range with
        | error e => rfl
        | ok _ => rfl
      · rfl

/-- The request passes every check, and the engine agrees. -/
theorem bind_eq_ok {E : Type} [SampleEngine E] {r : Rig E} {e' : E}
    (active : r.synth.PlaysOn native) (made : KeyRange.make? lokey hikey h = .ok range)
    (held : h ∈ r.synth.store.handles)
    (passed : r.synth.router.check p range = .ok ())
    (agreed : SampleEngine.bind native h p lokey hikey r.engine = (.ok (), e')) :
    r.bind p lokey hikey h =
      (.ok range, ⟨{ r.synth with router := r.synth.router.insert p range }, e'⟩) := by
  have valid := (Router.check_eq_ok_iff.1 passed).1
  rw [bind, Synth.native_eq_ok_iff.2 active]
  simp only [made, checkProgram_eq_ok_iff.2 valid, Store.mem_handles_iff.1 held, if_true, passed,
    agreed]

theorem exists_bind_ok_iff (ready : r.Ready rest others) (held : h ∈ r.synth.store.handles)
    (p : Program) (lokey hikey : UInt8) :
    (∃ range, (r.bind p lokey hikey h).1 = .ok range) ↔
      ∃ range, range.zone = ⟨h, lokey, hikey⟩ ∧ r.synth.router.check p range = .ok () := by
  constructor
  · rintro ⟨range, bound⟩
    obtain ⟨native, e', -, zone, -, passed, -⟩ := of_bind_ok (Prod.ext bound rfl)
    exact ⟨range, zone, passed⟩
  · rintro ⟨range, zone, passed⟩
    obtain ⟨native, active⟩ := ready.active
    obtain ⟨e', agreed, -⟩ := ready.willing.bind (ready.beside.synth_mem active)
      (ready.beside.store.held_live held) p lokey hikey
    have ⟨h_sample, h_lokey, h_hikey⟩ := Zone.mk.inj zone
    have made := KeyRange.make?_eq_ok_iff.2 ⟨h_lokey, h_hikey, h_sample⟩
    exact ⟨range, by rw [bind_eq_ok active made held passed agreed]⟩

theorem Ready.bind (ready : r.Ready rest others)
    (bound : r.bind p lokey hikey h = (.ok range, r')) : r'.Ready rest others := by
  have moves := moves_bind ready.beside p lokey hikey h
  rw [bound] at moves
  obtain ⟨native, e', active, -, held, -, agreed, rfl⟩ := of_bind_ok bound
  obtain ⟨_, again, willing⟩ := ready.willing.bind (ready.beside.synth_mem active)
    (ready.beside.store.held_live held) p lokey hikey
  obtain rfl := (Prod.mk.inj (agreed.symm.trans again)).2
  exact ⟨moves.beside, willing, native, active⟩

/-- SoundFonts are added without a condition. -/
theorem Ready.loadSoundFont (ready : r.Ready rest others) (fs : Files) (path : FilePath) :
    ∃ number r', r.loadSoundFont fs path = (.ok number, r') ∧ r'.Ready rest others ∧
      r'.synth = { r.synth with soundFonts := r.synth.soundFonts ++ [path] } := by
  have moves := moves_loadSoundFont ready.beside fs path
  obtain ⟨native, active⟩ := ready.active
  obtain ⟨number, e', agreed, willing⟩ := ready.willing.loadSoundFont
    (ready.beside.synth_mem active) fs path
  have loaded := loadSoundFont_eq_ok active agreed
  rw [loaded] at moves
  exact ⟨number, _, loaded, ⟨moves.beside, willing, native, active⟩, rfl⟩

end Rig

end SampleBank
