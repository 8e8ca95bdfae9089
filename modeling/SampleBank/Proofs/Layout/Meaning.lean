import SampleBank.Proofs.Synth.KeyMap
import SampleBank.Proofs.Synth.Willing

/-!
# What a layout means

A layout can be stated without the machinery that applies it: every binding has valid numbers, under
`reject` no two of them play on one key of a program (`Layout.Playable`), and a key plays the sample
of the last binding that covers it. `Layout.apply_fresh_ok_iff_playable` says that this is what
applying it to a fresh synthesizer on a mock engine comes to.

Two inductions over the bindings are behind it. What a run that succeeds has done is
`Layout.Played`, on any engine: the ranges of the bindings stand behind those that were there, in
order, each under a handle of its own. When a run succeeds is `Layout.exists_applySamples_ok_iff`,
on an engine that refuses nothing. There a binding has to fit the key map that the earlier ones have
left, and since a binding leaves its range there, to fit one after the other is to fit pairwise
(`SampleBinding.fits_insert_iff`).
-/

namespace SampleBank

variable {rest : List SampleHandle} {others : List SynthHandle} {r r' : Rig Engine} {fs : Files}
  {base : FilePath} {policy : OverlapPolicy} {router : Router} {p : Program} {range : KeyRange}

/-! ### Bindings -/

/-- Whether a zone plays on a key. -/
def Zone.covers (z : Zone) (key : UInt8) : Bool := z.lokey ≤ key && key ≤ z.hikey

namespace SampleBinding

variable {a b : SampleBinding} {sample : Sample}

/-- Whether the sample plays on a key. -/
def covers (b : SampleBinding) (key : UInt8) : Bool := b.lokey ≤ key && key ≤ b.hikey

/-- Whether all numbers are valid and the keys are in order. -/
def Valid (b : SampleBinding) : Prop :=
  b.rootKey ≤ maxKey ∧ b.program.Valid ∧ b.lokey ≤ b.hikey ∧ b.hikey ≤ maxKey

/-- Whether two bindings play on one key of a program. -/
def Collides (a b : SampleBinding) : Prop :=
  a.program = b.program ∧ ∃ key, a.covers key = true ∧ b.covers key = true

/-- Whether a key map has room for a binding. -/
def Fits (b : SampleBinding) (router : Router) : Prop :=
  router.policy = .reject → ∀ range ∈ router.ranges b.program,
    ∀ key, ¬(range.covers key = true ∧ b.covers key = true)

/-- The zone that a binding is to have. -/
def zone (b : SampleBinding) (h : SampleHandle) : Zone := ⟨h, b.lokey, b.hikey⟩

theorem covers_of_zone_eq {h : SampleHandle} (eq : range.zone = b.zone h) :
    range.covers = b.covers := by
  obtain ⟨-, h_lokey, h_hikey⟩ := Zone.mk.inj eq
  funext key
  rw [KeyRange.covers, h_lokey, h_hikey, covers]

/-- The range of a binding exists and passes the check exactly when its keys and program are valid
and the key map has room for it. -/
theorem exists_check_iff {h : SampleHandle} :
    (∃ range : KeyRange, range.zone = b.zone h ∧ router.check b.program range = .ok ()) ↔
      b.program.Valid ∧ (b.lokey ≤ b.hikey ∧ b.hikey ≤ maxKey) ∧ b.Fits router := by
  have apart_iff (range : KeyRange) (eq : range.zone = b.zone h) (bound : KeyRange) :
      bound.overlaps range = false ↔ ∀ key, ¬(bound.covers key = true ∧ b.covers key = true) := by
    rw [← covers_of_zone_eq eq, ← Bool.not_eq_true, KeyRange.overlaps_iff_exists_covers, not_exists]
  constructor
  · rintro ⟨range, eq, passed⟩
    obtain ⟨valid, apart⟩ := Router.check_eq_ok_iff.1 passed
    have ⟨_, h_lokey, h_hikey⟩ := Zone.mk.inj eq
    refine ⟨valid, ?_, fun reject bound hb => (apart_iff range eq bound).1 (apart reject bound hb)⟩
    rw [← h_lokey, ← h_hikey]
    exact ⟨range.lokey_le_hikey, range.hikey_le_maxKey⟩
  · rintro ⟨valid, ⟨ordered, le⟩, fits⟩
    refine ⟨⟨b.lokey, b.hikey, h, ordered, le⟩, rfl, Router.check_eq_ok_iff.2 ⟨valid, ?_⟩⟩
    exact fun reject bound hb => (apart_iff _ rfl bound).2 (fits reject bound hb)

/-- Behind another binding there is room for what was fitting before and does not collide. -/
theorem fits_insert_iff {h : SampleHandle} (eq : range.zone = a.zone h) :
    b.Fits (router.insert a.program range) ↔
      b.Fits router ∧ (router.policy = .reject → ¬a.Collides b) := by
  have covers := covers_of_zone_eq eq
  rw [Fits, Fits, ← forall_and]
  refine forall_congr' fun _ => ?_
  rw [Router.ranges_insert, Collides, not_and, not_exists]
  by_cases hp : b.program = a.program
  · rw [if_pos hp, hp]
    simp only [List.forall_mem_append, List.forall_mem_singleton, covers, forall_const]
  · rw [if_neg hp]
    exact ⟨fun apart => ⟨apart, fun same => absurd same.symm hp⟩, fun h => h.1⟩

/-- A binding that was applied was loaded, and then bound. -/
theorem of_apply_ok (applied : b.apply fs base r = (.ok sample, r')) :
    ∃ r₁ range, r.loadSample fs (base.resolve b.file) b.rootKey = (.ok sample, r₁) ∧
      r₁.bind b.program b.lokey b.hikey sample.handle = (.ok range, r') := by
  rw [apply] at applied
  split at applied
  · cases (Prod.mk.inj applied).1
  · rename_i loaded_sample r₁ loaded
    split at applied
    · rename_i range r₂ bound
      obtain ⟨answer, rfl⟩ := Prod.mk.inj applied
      obtain rfl := Except.ok.inj answer
      exact ⟨r₁, range, loaded, bound⟩
    · split at applied <;> cases (Prod.mk.inj applied).1

/-- What is loaded is in the store. -/
theorem mem_handles_of_loadSample_ok {path : FilePath} {rootKey : UInt8}
    (loaded : r.loadSample fs path rootKey = (.ok sample, r')) :
    sample.handle ∈ r'.synth.store.handles := by
  obtain ⟨native, e', -, -, -, rfl⟩ := Rig.of_loadSample_ok loaded
  exact Store.mem_handles_iff_lookup.2 ⟨sample, SortedMap.find?_insert_self ..⟩

/-- Once its sample is loaded, a binding is applied exactly when it is bound. -/
theorem exists_apply_ok_iff_of_loaded {r₁ : Rig Engine}
    (loaded : r.loadSample fs (base.resolve b.file) b.rootKey = (.ok sample, r₁)) :
    (∃ s, (b.apply fs base r).1 = .ok s) ↔
      ∃ range, (r₁.bind b.program b.lokey b.hikey sample.handle).1 = .ok range := by
  rw [apply, loaded]
  simp only
  split
  · rename_i range r₂ bound
    exact ⟨fun _ => ⟨range, by rw [bound]⟩, fun _ => ⟨sample, rfl⟩⟩
  -- a binding that is refused is an error, whether or not its sample can be released
  · rename_i cause r₂ refused
    rw [refused]
    constructor
    · rintro ⟨s, answered⟩
      split at answered <;> cases answered
    · rintro ⟨range, bound⟩
      cases bound

/-- Where the engine refuses nothing, a binding is applied exactly when it is valid and there is
room for it. -/
theorem exists_apply_ok_iff (ready : r.Ready rest others) (fs : Files) (base : FilePath)
    (b : SampleBinding) :
    (∃ sample, (b.apply fs base r).1 = .ok sample) ↔ b.Valid ∧ b.Fits r.synth.router := by
  have load_iff := Rig.exists_loadSample_ok_iff ready fs (base.resolve b.file) b.rootKey
  rcases loaded : r.loadSample fs (base.resolve b.file) b.rootKey with ⟨answer, r₁⟩
  rw [loaded] at load_iff
  cases answer with
  | error cause =>
    have not_key : ¬b.rootKey ≤ maxKey := by
      intro le
      obtain ⟨sample, answered⟩ := load_iff.2 le
      cases answered
    rw [apply, loaded]
    refine ⟨?_, fun h => absurd h.1.1 not_key⟩
    rintro ⟨sample, failed⟩
    cases failed
  | ok sample =>
    have is_key := load_iff.1 ⟨sample, rfl⟩
    have bind_iff := Rig.exists_bind_ok_iff (ready.loadSample loaded)
      (mem_handles_of_loadSample_ok loaded) b.program b.lokey b.hikey
    have apply_iff := (exists_apply_ok_iff_of_loaded loaded).trans
      (bind_iff.trans (exists_check_iff (h := sample.handle)))
    -- loading has not touched the key map
    obtain ⟨native, e', -, -, -, rfl⟩ := Rig.of_loadSample_ok loaded
    rw [apply_iff, Valid]
    constructor
    · rintro ⟨valid, keys, fits⟩
      exact ⟨⟨is_key, valid, keys⟩, fits⟩
    · rintro ⟨⟨-, valid, keys⟩, fits⟩
      exact ⟨valid, keys, fits⟩

theorem ready_apply (ready : r.Ready rest others) (applied : b.apply fs base r = (.ok sample, r')) :
    r'.Ready rest others := by
  obtain ⟨r₁, range, loaded, bound⟩ := of_apply_ok applied
  exact (ready.loadSample loaded).bind bound

end SampleBinding

namespace Layout

variable {bindings : List SampleBinding} {samples : List Sample}

/-! ### What a run has done -/

/-- The zones of a program among samples and the bindings that they were loaded for. -/
def zonesOf (played : List (Sample × SampleBinding)) (p : Program) : List Zone :=
  (played.filter (·.2.program = p)).map fun (sample, b) => b.zone sample.handle

theorem zonesOf_cons (e : Sample × SampleBinding) (played : List (Sample × SampleBinding))
    (p : Program) : zonesOf (e :: played) p = zonesOf [e] p ++ zonesOf played p := by
  rw [zonesOf, ← List.singleton_append, List.filter_append, List.map_append]
  rfl

/-- What the applying of bindings has done when it has brought these samples. -/
structure Played (base : FilePath) (bindings : List SampleBinding) (samples : List Sample)
    (r r' : Rig Engine) : Prop where
  samples_eq : samples.map (fun s => (s.filename, s.rootKey)) =
    bindings.map fun b => (base.resolve b.file, b.rootKey)
  nodup : (samples.map (·.handle)).Nodup
  new : ∀ s ∈ samples, s.handle ∉ r.synth.store.handles
  lookup : ∀ s ∈ samples, r'.synth.store.lookup s.handle = some s
  ranges : ∀ p, (r'.synth.router.ranges p).map (·.zone) =
    (r.synth.router.ranges p).map (·.zone) ++ zonesOf (samples.zip bindings) p
  native : r'.synth.native = r.synth.native
  soundFonts : r'.synth.soundFonts = r.synth.soundFonts

namespace Played

theorem nil (base : FilePath) (r : Rig Engine) : Played base [] [] r r :=
  ⟨rfl, .nil, nofun, nofun, fun _ => (List.append_nil _).symm, rfl, rfl⟩

theorem singleton {b : SampleBinding} {sample : Sample} (beside : r.Beside rest others)
    (applied : b.apply fs base r = (.ok sample, r')) : Played base [b] [sample] r r' := by
  obtain ⟨r₁, range, loaded, bound⟩ := SampleBinding.of_apply_ok applied
  have fresh := Rig.not_mem_of_loadSample_ok beside loaded
  obtain ⟨_, e₁, -, -, recorded, rfl⟩ := Rig.of_loadSample_ok loaded
  obtain ⟨_, e₂, -, zone, -, -, -, rfl⟩ := Rig.of_bind_ok bound
  refine ⟨?_, List.nodup_singleton _, ?_, ?_, fun p => ?_, rfl, rfl⟩
  · rw [List.map_singleton, List.map_singleton, recorded]
  · exact List.forall_mem_singleton.2 fresh
  · exact List.forall_mem_singleton.2 (SortedMap.find?_insert_self ..)
  · rw [Router.ranges_insert, zonesOf, List.zip_cons_cons, List.zip_nil_left, List.filter_singleton]
    by_cases hp : p = b.program
    · rw [if_pos hp, decide_eq_true hp.symm, List.map_append, hp]
      exact congrArg _ (congrArg (List.cons · []) zone)
    · rw [if_neg hp, decide_eq_false (Ne.symm hp)]
      exact (List.append_nil _).symm

theorem cons {b : SampleBinding} {sample : Sample} {r'' : Rig Engine}
    (first : Played base [b] [sample] r r') (second : Played base bindings samples r' r'')
    (moves : r.Moves rest others [] r') (later : r'.Moves rest others [] r'') :
    Played base (b :: bindings) (sample :: samples) r r'' := by
  have own := first.lookup sample List.mem_cons_self
  have held : sample.handle ∈ r'.synth.store.handles :=
    Store.mem_handles_iff_lookup.2 ⟨sample, own⟩
  refine ⟨?_, ?_, ?_, ?_, fun p => ?_, second.native.trans first.native,
    second.soundFonts.trans first.soundFonts⟩
  · rw [List.map_cons, List.map_cons, second.samples_eq]
    exact congrArg (List.cons · _) (List.cons.inj first.samples_eq).1
  -- the later samples have handles that were not taken, and by then the first one's was
  · refine List.nodup_cons.2 ⟨fun again => ?_, second.nodup⟩
    obtain ⟨s, hs, eq⟩ := List.mem_map.1 again
    exact second.new s hs (eq ▸ held)
  · refine List.forall_mem_cons.2 ⟨first.new sample List.mem_cons_self, fun s hs before => ?_⟩
    exact second.new s hs (moves.keeps s.handle before List.not_mem_nil).1
  · exact List.forall_mem_cons.2 ⟨later.lookup moves.beside own List.not_mem_nil, second.lookup⟩
  · rw [second.ranges, first.ranges, List.append_assoc]
    exact congrArg _ (zonesOf_cons (sample, b) (samples.zip bindings) p).symm

end Played

theorem played_applySamples (beside : r.Beside rest others)
    (applied : applySamples fs base bindings r = (.ok samples, r')) :
    Played base bindings samples r r' := by
  induction bindings generalizing r samples with
  | nil =>
    obtain ⟨answer, rfl⟩ := Prod.mk.inj applied
    obtain rfl := Except.ok.inj answer
    exact .nil base r
  | cons b later ih =>
    have moves := b.moves_apply beside fs base
    rw [applySamples] at applied
    split at applied
    · cases (Prod.mk.inj applied).1
    · rename_i sample r₁ first
      rw [first] at moves
      have rest_moves := applySamples_induction (P := r₁.Moves rest others [])
        (fun _ c before => before.trans (c.moves_apply before.beside fs base)) later
        (.refl moves.beside [])
      split at applied
      · cases (Prod.mk.inj applied).1
      · rename_i samples' r₂ second
        obtain ⟨answer, rfl⟩ := Prod.mk.inj applied
        obtain rfl := Except.ok.inj answer
        rw [second] at rest_moves
        exact (Played.singleton beside first).cons (ih moves.beside second) moves rest_moves

/-! ### When a run succeeds -/

/-- Whether every binding is valid and, under `reject`, no two of them collide. -/
def Playable (policy : OverlapPolicy) (bindings : List SampleBinding) : Prop :=
  (∀ b ∈ bindings, b.Valid) ∧
    (policy = .reject → bindings.Pairwise fun a b => ¬a.Collides b)

theorem playable_cons_iff {b : SampleBinding} :
    Playable policy (b :: bindings) ↔
      b.Valid ∧ (policy = .reject → ∀ c ∈ bindings, ¬b.Collides c) ∧ Playable policy bindings := by
  rw [Playable, Playable, List.forall_mem_cons, List.pairwise_cons]
  constructor
  · rintro ⟨⟨valid, later⟩, apart⟩
    exact ⟨valid, fun reject => (apart reject).1, later, fun reject => (apart reject).2⟩
  · rintro ⟨valid, apart, later, pairwise⟩
    exact ⟨⟨valid, later⟩, fun reject => ⟨apart reject, pairwise reject⟩⟩

theorem exists_applySamples_cons_ok_iff {b : SampleBinding} :
    (∃ samples, (applySamples fs base (b :: bindings) r).1 = .ok samples) ↔
      ∃ sample r₁, b.apply fs base r = (.ok sample, r₁) ∧
        ∃ samples, (applySamples fs base bindings r₁).1 = .ok samples := by
  rw [applySamples]
  constructor
  · rintro ⟨samples, answered⟩
    split at answered
    · cases answered
    · rename_i sample r₁ first
      split at answered
      · cases answered
      · rename_i samples' r₂ second
        exact ⟨sample, r₁, first, samples', by rw [second]⟩
  · rintro ⟨sample, r₁, first, samples, answered⟩
    rcases second : applySamples fs base bindings r₁ with ⟨answer, r₂⟩
    rw [second] at answered
    cases answered
    exact ⟨sample :: samples, by simp only [first, second]⟩

/-- Where the engine refuses nothing, a run succeeds exactly when the bindings are playable and each
of them has room beside what was bound before the run. -/
theorem exists_applySamples_ok_iff (ready : r.Ready rest others) (fs : Files) (base : FilePath)
    (bindings : List SampleBinding) :
    (∃ samples, (applySamples fs base bindings r).1 = .ok samples) ↔
      Playable r.synth.router.policy bindings ∧ ∀ b ∈ bindings, b.Fits r.synth.router := by
  induction bindings generalizing r with
  | nil => exact iff_of_true ⟨[], rfl⟩ ⟨⟨nofun, fun _ => .nil⟩, nofun⟩
  | cons b later ih =>
    have first_iff := SampleBinding.exists_apply_ok_iff ready fs base b
    -- the later bindings meet the key map that the first one has left
    have later_iff {sample r₁} (applied : b.apply fs base r = (.ok sample, r₁)) :
        (∃ samples, (applySamples fs base later r₁).1 = .ok samples) ↔
          Playable r.synth.router.policy later ∧ ∀ c ∈ later, c.Fits r.synth.router ∧
            (r.synth.router.policy = .reject → ¬b.Collides c) := by
      refine (ih (SampleBinding.ready_apply ready applied)).trans ?_
      obtain ⟨r₂, range, loaded, bound⟩ := SampleBinding.of_apply_ok applied
      obtain ⟨_, e₁, -, -, -, rfl⟩ := Rig.of_loadSample_ok loaded
      obtain ⟨_, e₂, -, zone, -, -, -, rfl⟩ := Rig.of_bind_ok bound
      simp only [SampleBinding.fits_insert_iff (a := b) zone]
      rfl
    rw [exists_applySamples_cons_ok_iff, playable_cons_iff, List.forall_mem_cons]
    constructor
    · rintro ⟨sample, r₁, applied, second⟩
      obtain ⟨valid, fits⟩ := first_iff.1 ⟨sample, by rw [applied]⟩
      obtain ⟨playable, later_fits⟩ := (later_iff applied).1 second
      exact ⟨⟨valid, fun reject c hc => (later_fits c hc).2 reject, playable⟩, fits,
        fun c hc => (later_fits c hc).1⟩
    · rintro ⟨⟨valid, apart, playable⟩, fits, later_fits⟩
      obtain ⟨sample, answered⟩ := first_iff.2 ⟨valid, fits⟩
      have applied : b.apply fs base r = (.ok sample, (b.apply fs base r).2) :=
        Prod.ext answered rfl
      refine ⟨sample, _, applied, (later_iff applied).2 ⟨playable, fun c hc => ?_⟩⟩
      exact ⟨later_fits c hc, fun reject => apart reject c hc⟩

theorem applyFonts_ok (ready : r.Ready rest others) (fs : Files) (base : FilePath)
    (fonts : List String) :
    ∃ r', applyFonts fs base fonts r = (.ok (), r') ∧ r'.Ready rest others ∧
      r'.synth = { r.synth with
        soundFonts := r.synth.soundFonts ++ fonts.map base.resolve } :=
  applyFonts_ok_of (P := Rig.Ready rest others)
    (fun _ path _ ready => ready.loadSoundFont fs path) ready

/-! ### What callers can rely on -/

/-- The last of the bindings that cover a key of a program, with its sample. -/
def lastCovering (played : List (Sample × SampleBinding)) (p : Program) (key : UInt8) :
    Option (Sample × SampleBinding) :=
  (played.filter fun e => e.2.program = p ∧ e.2.covers key = true).getLast?

/-- A synthesizer plays what the layout says: every binding has its sample, and a key plays the
sample of the last binding that covers it. -/
structure Means (base : FilePath) (l : Layout) (samples : List Sample) (s : Synth) : Prop where
  loaded : samples.map (fun s => (s.filename, s.rootKey)) =
    l.samples.map fun b => (base.resolve b.file, b.rootKey)
  handles : (samples.map (·.handle)).Nodup
  soundFonts : s.loadedFonts = .ok (l.soundFonts.map base.resolve)
  resolve : ∀ p key, p.Valid → key ≤ maxKey →
    s.resolve p key = .ok ((lastCovering (samples.zip l.samples) p key).map (·.1))

/-- The zones that cover a key are those of the bindings that cover it. -/
theorem filter_zonesOf (played : List (Sample × SampleBinding)) (p : Program) (key : UInt8) :
    (zonesOf played p).filter (·.covers key) =
      (played.filter fun e => e.2.program = p ∧ e.2.covers key = true).map
        fun (sample, b) => b.zone sample.handle := by
  rw [zonesOf, List.filter_map, List.filter_filter]
  congr 1
  refine List.filter_congr fun e _ => ?_
  rw [Bool.decide_and, Bool.and_comm, Bool.decide_eq_true]
  rfl

/-- A lookup in a key map that was empty before the run. -/
theorem Played.resolve_eq (played : Played base bindings samples r r')
    (inOrder : r'.synth.router.InOrder) (nothing : ∀ p, r.synth.router.ranges p = [])
    (p : Program) (key : UInt8) :
    (r'.synth.router.resolve p key).bind r'.synth.store.lookup =
      (lastCovering (samples.zip bindings) p key).map (·.1) := by
  have zones : (r'.synth.router.ranges p).map (·.zone) = zonesOf (samples.zip bindings) p := by
    rw [played.ranges, nothing, List.map_nil, List.nil_append]
  have covering : ((r'.synth.router.ranges p).filter (·.covers key)).map (·.zone) =
      ((samples.zip bindings).filter fun e => e.2.program = p ∧ e.2.covers key = true).map
        fun (sample, b) => b.zone sample.handle := by
    rw [← filter_zonesOf, ← zones, List.filter_map]
    rfl
  have last : r'.synth.router.resolve p key =
      (lastCovering (samples.zip bindings) p key).map (·.1.handle) := by
    have ends := congrArg (fun zones => zones.getLast?.map Zone.sample) covering
    simp only [List.getLast?_map, Option.map_map] at ends
    rw [Router.resolve_eq inOrder]
    exact ends
  rw [last]
  cases found : lastCovering (samples.zip bindings) p key with
  | none => rfl
  | some e =>
    have mem : e ∈ samples.zip bindings := List.mem_of_mem_filter (List.mem_of_getLast? found)
    exact played.lookup e.1 (List.of_mem_zip mem).1

/-- Applying a layout to a fresh synthesizer succeeds exactly when the layout is playable, and then
the synthesizer plays what the layout says. -/
theorem apply_fresh_ok_iff_playable (fs : Files) (base : FilePath) (name : String)
    (policy : OverlapPolicy) (l : Layout) :
    let applied := l.apply fs base (.fresh name policy)
    ((∃ samples, applied.1 = .ok samples) ↔ Playable policy l.samples) ∧
      ∀ samples, applied.1 = .ok samples → l.Means base samples applied.2.synth := by
  have inOrder : (l.apply fs base (.fresh name policy)).2.synth.router.InOrder :=
    (l.rebinds_apply fs base (.fresh name policy)).inOrder
  obtain ⟨r, loaded, ready, synth_eq⟩ := applyFonts_ok (Rig.ready_fresh name policy) fs base
    l.soundFonts
  have then_samples : l.apply fs base (.fresh name policy) = applySamples fs base l.samples r := by
    rw [apply, loaded]
  -- SoundFonts leave the key map as empty as it was
  have router_eq : r.synth.router = .empty policy := by rw [synth_eq]; rfl
  have nothing (p : Program) : r.synth.router.ranges p = [] := by rw [router_eq]; rfl
  rw [then_samples] at inOrder
  intro applied
  rw [show applied = applySamples fs base l.samples r from then_samples]
  refine ⟨?_, fun samples answered => ?_⟩
  · have policy_eq : r.synth.router.policy = policy := by rw [router_eq]; rfl
    rw [exists_applySamples_ok_iff ready, policy_eq]
    refine and_iff_left fun b _ _ range hr => ?_
    rw [nothing] at hr
    cases hr
  · have played := played_applySamples ready.beside (Prod.ext answered rfl)
    obtain ⟨native, active⟩ := ready.active
    have native_ok := played.native.trans (Synth.native_eq_ok_iff.2 active)
    refine ⟨played.samples_eq, played.nodup, ?_, fun p key valid is_key => ?_⟩
    · rw [Synth.loadedFonts, native_ok, played.soundFonts, synth_eq]
      rfl
    · rw [Synth.resolve, native_ok, ← played.resolve_eq inOrder nothing p key]
      simp only [checkProgram_eq_ok_iff.2 valid, checkKey, if_pos is_key]

/-- Two bindings that meet on one key. -/
def twoLayers : Layout := ⟨["a"], [⟨"b", 60, ⟨0, 0⟩, 10, 20⟩, ⟨"c", 62, ⟨0, 0⟩, 20, 30⟩]⟩

/-- They can be applied where the last one wins, and cannot where overlaps are refused. -/
theorem means_twoLayers :
    (∃ samples, samples.length = 2 ∧ twoLayers.Means ⟨[]⟩ samples
      (twoLayers.apply ⟨"", []⟩ ⟨[]⟩ (.fresh "mock" .lastWins)).2.synth) ∧
    ¬Playable .reject twoLayers.samples := by
  have ⟨_, means⟩ := apply_fresh_ok_iff_playable ⟨"", []⟩ ⟨[]⟩ "mock" .lastWins twoLayers
  have ⟨applied, _⟩ := apply_fresh_ok_iff_playable ⟨"", []⟩ ⟨[]⟩ "mock" .reject twoLayers
  refine ⟨⟨_, rfl, means [_, _] rfl⟩, fun playable => ?_⟩
  obtain ⟨samples, answered⟩ := applied.2 playable
  cases answered

end Layout

end SampleBank
