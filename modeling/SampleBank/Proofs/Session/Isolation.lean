import SampleBank.Proofs.Session.Sharing

/-!
# Users of one engine do not disturb each other

A `Holder` is a user of the engine, a store or a synthesizer of a session. `Session.Untouched` says
that a user is as it was, and so is everything that it has at the engine: its samples, and the
zones and SoundFonts of its synth.

A command changes no user other than its target (`Session.Stays`), so what is left to show is that
it takes nothing at the engine from the others. Nothing in the engine says which user a sample or a
zone belongs to, and deleting a sample sweeps the zones of every synth. But a user deletes only
what it holds, what it holds nobody else does, and a synth plays only samples of its own
synthesizer. This is what `Engine.Spares` records of a step, and `Session.Shared.spares` reads it
off for one user.
-/

namespace SampleBank

/-- A store of a session, on its own or inside a synthesizer. -/
inductive Holder
  | store (index : Nat)
  | synth (index : Nat)
deriving DecidableEq

/-- The user that a command operates on, if it is there already. -/
def Command.target? : Command → Option Holder
  | .store i _ => some (.store i)
  | .synth i _ => some (.synth i)
  | _ => none

/-- A synth is there and has the zones and SoundFonts that it had. A mock engine keeps one order of
a synth's zones across all programs, which is the same too. -/
structure Engine.KeepsSynth (native : SynthHandle) (e e' : Engine) : Prop where
  synth_mem : native ∈ e'.synths
  zones : ∀ p, e'.zones native p = e.zones native p
  order : ∀ m, e = .mock m → ∃ m', e' = .mock m' ∧ m'.zonesOfSynth native = m.zonesOfSynth native
  fonts : e'.fonts? native = e.fonts? native

/-- A synth that is kept twice is kept. -/
theorem Engine.KeepsSynth.trans {native : SynthHandle} {e e' e'' : Engine}
    (first : e.KeepsSynth native e') (second : e'.KeepsSynth native e'') :
    e.KeepsSynth native e'' where
  synth_mem := second.synth_mem
  zones p := (second.zones p).trans (first.zones p)
  order m eq := by
    obtain ⟨m', eq', same⟩ := first.order m eq
    obtain ⟨m'', eq'', same'⟩ := second.order m' eq'
    exact ⟨m'', eq'', same'.trans same⟩
  fonts := second.fonts.trans first.fonts

namespace Session

/-- The store of a holder that was not dropped. -/
def storeOf? (s : Session) : Holder → Option Store
  | .store i => s.store? i
  | .synth i => (s.synth? i).map (·.store)

/-- The engine's synth on which a holder plays, if any. -/
def playedOf (s : Session) : Holder → List SynthHandle
  | .store _ => []
  | .synth i => playedBy (s.synth? i).toList

/-- A user who is there is still there, as it was. -/
structure Stays (s s' : Session) (u : Holder) : Prop where
  store : ∀ i store, u = .store i → s.store? i = some store → s'.store? i = some store
  synth : ∀ i synth, u = .synth i → s.synth? i = some synth → s'.synth? i = some synth

/-- A user who is there is as it was, and so is all that it has at the engine. -/
structure Untouched (s s' : Session) (u : Holder) : Prop extends s.Stays s' u where
  samples : ∀ store, s.storeOf? u = some store → ∀ h ∈ store.handles,
    h ∈ s'.engine.handles ∧ s'.engine.sample? h = s.engine.sample? h
  native : ∀ i synth native, u = .synth i → s.synth? i = some synth →
    synth.handle? = some native → s.engine.KeepsSynth native s'.engine

variable {s s' s'' : Session} {i : Nat} {u : Holder} {store : Store} {synth : Synth}
  {h : SampleHandle} {fs : Files} {c : Command}

/-! ### What a user holds -/

theorem exists_synth_of_storeOf? {j : Nat} (hu : s.storeOf? (.synth j) = some store) :
    ∃ synth, s.synth? j = some synth ∧ synth.store = store :=
  Option.map_eq_some_iff.1 hu

/-- A synthesizer holds what is in its store. -/
theorem storeOf?_synth (hs : s.synth? i = some synth) :
    s.storeOf? (.synth i) = some synth.store :=
  congrArg (Option.map Synth.store) hs

/-- A synthesizer plays on the synth of its handle, if it has one. -/
theorem playedOf_synth (hs : s.synth? i = some synth) :
    s.playedOf (.synth i) = synth.handle?.toList := by
  rw [playedOf, hs, Option.toList_some, playedBy, List.flatMap_singleton]

/-- A user who is there is among these stores and synthesizers. -/
structure Among (s : Session) (u : Holder) (stores : List Store) (synths : List Synth) : Prop where
  store : ∀ i store, u = .store i → s.store? i = some store → store ∈ stores
  synth : ∀ i synth, u = .synth i → s.synth? i = some synth → synth ∈ synths

namespace Among

variable {stores : List Store} {synths : List Synth}

/-- What a user holds is part of what all of them hold. -/
theorem held (among : s.Among u stores synths) (hu : s.storeOf? u = some store) :
    store.handles ⊆ heldBy stores synths := by
  cases u with
  | store i => exact handles_subset_heldBy (among.store i store rfl hu)
  | synth i =>
    obtain ⟨synth, hs, rfl⟩ := exists_synth_of_storeOf? hu
    exact synth_handles_subset_heldBy (among.synth i synth rfl hs)

/-- The synth of a user is one of those that are played on. -/
theorem played (among : s.Among u stores synths) (hu : s.storeOf? u = some store) :
    s.playedOf u ⊆ playedBy synths := by
  cases u with
  | store i => exact List.nil_subset _
  | synth i =>
    obtain ⟨synth, hs, -⟩ := exists_synth_of_storeOf? hu
    rw [playedOf_synth hs]
    exact handle?_subset_playedBy (among.synth i synth rfl hs)

/-- Who is among those who are spared is spared. -/
theorem spares {e e' : Engine} (among : s.Among u stores synths)
    (hu : s.storeOf? u = some store)
    (spared : e.Spares (heldBy stores synths) (playedBy synths) e') :
    e.Spares store.handles (s.playedOf u) e' :=
  spared.mono (among.held hu) (among.played hu)

end Among

/-- A user of a session is among its live stores and synthesizers. -/
theorem among_live (s : Session) (u : Holder) : s.Among u s.liveStores s.liveSynths where
  store _ _ _ hs := mem_filterMap_of_getElem? (getElem?_of_store? hs)
  synth _ _ _ hs := mem_filterMap_of_getElem? (getElem?_of_synth? hs)

/-- Everyone but a store in front is among the rest. -/
theorem among_of_ne_store (ne : u ≠ .store i) :
    s.Among u (others s.stores i) s.liveSynths where
  store j _ eq hs := by
    have other : j ≠ i := by
      rintro rfl
      exact ne eq
    exact mem_others other (getElem?_of_store? hs)
  synth := (s.among_live u).synth

/-- Everyone but a synthesizer in front is among the rest. -/
theorem among_of_ne_synth (ne : u ≠ .synth i) :
    s.Among u s.liveStores (others s.synths i) where
  store := (s.among_live u).store
  synth j _ eq hs := by
    have other : j ≠ i := by
      rintro rfl
      exact ne eq
    exact mem_others other (getElem?_of_synth? hs)

/-- What a user holds is live. -/
theorem Shared.live (sh : s.Shared) (hu : s.storeOf? u = some store) :
    store.handles ⊆ s.engine.handles := by
  intro h held
  exact sh.held.mem_iff.1 ((s.among_live u).held hu held)

/-! ### What a command does to users -/

section Places

variable {α : Type} {l : List (Option α)} {j : Nat} {a : α}

/-- Who joins comes last. -/
theorem join_getElem?_append (here : (l[j]?).join = some a) (joined : List (Option α)) :
    ((l ++ joined)[j]?).join = some a := by
  have found : l[j]? = some (some a) := Option.join_eq_some_iff.1 here
  rw [List.getElem?_append_left (List.getElem?_eq_some_iff.1 found).1, here]

/-- Replacing what stands in one place does not concern another. -/
theorem join_getElem?_set_ne (ne : i ≠ j) (left : Option α) :
    ((l.set i left)[j]?).join = (l[j]?).join := by
  rw [List.getElem?_set_ne ne]

end Places

/-- Users stay where neither stores nor synthesizers change. -/
theorem Stays.of_eq (stores : s'.stores = s.stores) (synths : s'.synths = s.synths) :
    s.Stays s' u where
  store i store _ hs := by rw [store?, stores]; exact hs
  synth i synth _ hs := by rw [synth?, synths]; exact hs

/-- The store of a user who stays is what it was. -/
theorem Stays.storeOf? (stays : s.Stays s' u) (hu : s.storeOf? u = some store) :
    s'.storeOf? u = some store := by
  cases u with
  | store i => exact stays.store i store rfl hu
  | synth i =>
    obtain ⟨synth, hs, rfl⟩ := exists_synth_of_storeOf? hu
    exact storeOf?_synth (stays.synth i synth rfl hs)

/-- A user who stays twice has stayed. -/
theorem Stays.trans (first : s.Stays s' u) (second : s'.Stays s'' u) : s.Stays s'' u where
  store i store eq hs := second.store i store eq (first.store i store eq hs)
  synth i synth eq hs := second.synth i synth eq (first.synth i synth eq hs)

/-- A command changes nobody but its target. -/
theorem stays_step (s : Session) (fs : Files) (other : c.target? ≠ some u) :
    s.Stays (s.step fs c).2 u := by
  cases c with
  | engine command => exact .of_eq rfl rfl
  | setRefusal call on =>
    obtain ⟨engine, stores, synths⟩ := s
    cases engine with
    | ram r => exact .of_eq rfl rfl
    | mock m => exact .of_eq rfl rfl
  | newStore =>
    exact ⟨fun i store _ hs => join_getElem?_append hs _, fun i synth _ hs => hs⟩
  | store j command =>
    cases hs : s.store? j with
    | none =>
      rw [step, hs]
      exact .of_eq rfl rfl
    | some first =>
      rw [step_store_eq hs]
      refine ⟨fun i store eq hs => ?_, fun i synth _ hs => hs⟩
      have ne : j ≠ i := by
        rintro rfl
        exact other (congrArg some eq.symm)
      exact (join_getElem?_set_ne ne _).trans hs
  | newSynth policy =>
    exact ⟨fun i store _ hs => hs, fun i synth _ hs => join_getElem?_append hs _⟩
  | startedSynth policy =>
    rw [step]
    rcases Rig.start ⟨.new policy, s.engine⟩ with ⟨answer, r⟩
    cases answer with
    | error cause => exact .of_eq rfl rfl
    | ok _ => exact ⟨fun i store _ hs => hs, fun i synth _ hs => join_getElem?_append hs _⟩
  | synth j command =>
    cases hs : s.synth? j with
    | none =>
      rw [step, hs]
      exact .of_eq rfl rfl
    | some first =>
      rw [step_synth_eq hs]
      refine ⟨fun i store _ hs => hs, fun i synth eq hs => ?_⟩
      have ne : j ≠ i := by
        rintro rfl
        exact other (congrArg some eq.symm)
      exact (join_getElem?_set_ne ne _).trans hs

/-! ### What a command does to their engine -/

/-- A command to a store leaves the engine that the store leaves. -/
theorem engine_step_store (hs : s.store? i = some store) {command : StoreCommand} :
    (s.step fs (.store i command)).2.engine = (runStore fs store s.engine command).2.2 := by
  rw [step_store_eq hs]

/-- A command to a synthesizer leaves the engine that the synthesizer leaves. -/
theorem engine_step_synth (hs : s.synth? i = some synth) {command : SynthCommand} :
    (s.step fs (.synth i command)).2.engine = (runSynth fs ⟨synth, s.engine⟩ command).2.2 := by
  rw [step_synth_eq hs]

/-- A new synthesizer takes nothing from those who are there, even if it cannot be opened. -/
theorem Shared.spares_startedSynth (sh : s.Shared) (fs : Files) (policy : OverlapPolicy) :
    s.engine.Spares (heldBy s.liveStores s.liveSynths) (playedBy s.liveSynths)
      (s.step fs (.startedSynth policy)).2.engine := by
  have new : s.engine.SharedBy s.liveStores (.new policy :: s.liveSynths) :=
    Engine.SharedBy.cons_new_iff.2 sh
  have start := Rig.moves_start new.rig_beside
  rw [Session.step]
  rcases opened : Rig.start ⟨.new policy, s.engine⟩ with ⟨answer, r⟩
  rw [opened] at start
  cases answer with
  | error cause => exact start.spares.trans (Rig.moves_drop start.beside policy).spares
  | ok _ => exact start.spares

/-- A command takes nothing at the engine from a user other than its target. -/
theorem Shared.spares (sh : s.Shared) (fs : Files) (mediated : c.Mediated)
    (hu : s.storeOf? u = some store) (other : c.target? ≠ some u) :
    s.engine.Spares store.handles (s.playedOf u) (s.step fs c).2.engine := by
  cases c with
  | engine command => exact mediated.elim
  | setRefusal call on =>
    obtain ⟨engine, stores, synths⟩ := s
    cases engine with
    | ram r => exact .refl _ _ _
    | mock m =>
      exact ⟨fun _ _ => rfl, fun _ _ _ _ => rfl, fun _ _ => .of_mock (.refl _), fun _ _ => rfl⟩
  | newStore | newSynth policy => exact .refl _ _ _
  | startedSynth policy =>
    exact (s.among_live u).spares hu (sh.spares_startedSynth fs policy)
  | store i command =>
    have ne : u ≠ .store i := fun eq => other (congrArg some eq.symm)
    cases hs : s.store? i with
    | none =>
      rw [Session.step, hs]
      exact .refl _ _ _
    | some first =>
      obtain ⟨released, moves, -⟩ := moves_runStore (sh.front_store hs).store_beside
        (playedBy s.liveSynths) fs command
      rw [engine_step_store hs]
      exact (among_of_ne_store ne).spares hu moves.spares
  | synth i command =>
    have ne : u ≠ .synth i := fun eq => other (congrArg some eq.symm)
    cases hs : s.synth? i with
    | none =>
      rw [Session.step, hs]
      exact .refl _ _ _
    | some first =>
      obtain ⟨released, moves, -⟩ := moves_runSynth (sh.front_synth hs).rig_beside fs command
      rw [engine_step_synth hs]
      exact (among_of_ne_synth ne).spares hu moves.spares

/-! ### Untouched users -/

/-- A user who is left untouched twice is untouched. -/
theorem Untouched.trans (first : s.Untouched s' u) (second : s'.Untouched s'' u) :
    s.Untouched s'' u where
  toStays := first.toStays.trans second.toStays
  samples store hu h held := by
    have ⟨_, same⟩ := first.samples store hu h held
    have ⟨live, same'⟩ := second.samples store (first.storeOf? hu) h held
    exact ⟨live, same'.trans same⟩
  native i synth native eq hs plays := by
    have kept := first.native i synth native eq hs plays
    exact kept.trans (second.native i synth native eq (first.synth i synth eq hs) plays)

/-- A synth whose synthesizer is spared, and still there, is kept. -/
theorem Shared.keepsSynth (sh : s.Shared) (sh' : s'.Shared) {native : SynthHandle}
    (hs : s.synth? i = some synth) (hs' : s'.synth? i = some synth)
    (plays : synth.handle? = some native)
    (spares : s.engine.Spares synth.store.handles [native] s'.engine) :
    s.engine.KeepsSynth native s'.engine := by
  have own := (sh.front_synth hs).rig_beside.mirrored
  have active := own.handle.playsOn plays
  -- no sweep for another has touched its zones, because they play samples of its own store
  have zones := spares.zones native List.mem_cons_self (own.sample_mem active)
  refine ⟨(sh'.front_synth hs').rig_beside.synth_mem active, zones, fun m eq => ?_,
    spares.fonts native List.mem_cons_self⟩
  have order := spares.order native List.mem_cons_self
  obtain ⟨m', eq', -⟩ := order m eq
  rw [eq, eq'] at order zones
  exact ⟨m', eq', order.zonesOfSynth_eq zones⟩

/-- A user who stays and is spared is untouched. -/
theorem Shared.untouched (sh : s.Shared) (sh' : s'.Shared) (stays : s.Stays s' u)
    (spares : ∀ store, s.storeOf? u = some store →
      s.engine.Spares store.handles (s.playedOf u) s'.engine) : s.Untouched s' u where
  toStays := stays
  samples store hu h held := by
    have same := (spares store hu).sample? h held
    have live := sh.live hu held
    rw [Engine.mem_handles_iff, ← same, ← Engine.mem_handles_iff] at live
    exact ⟨live, same⟩
  native i synth native eq hs plays := by
    subst eq
    have spared := spares synth.store (storeOf?_synth hs)
    rw [playedOf_synth hs, plays] at spared
    exact sh.keepsSynth sh' hs (stays.synth i synth rfl hs) plays spared

/-- In a session that does nothing everyone is untouched. -/
theorem Shared.untouched_refl (sh : s.Shared) (u : Holder) : s.Untouched s u :=
  sh.untouched sh (.of_eq rfl rfl) fun _ _ => .refl _ _ _

/-- A command of one user leaves every other user untouched. -/
theorem Shared.untouched_step (sh : s.Shared) (fs : Files) (mediated : c.Mediated)
    (other : c.target? ≠ some u) : s.Untouched (s.step fs c).2 u :=
  sh.untouched (sh.step fs mediated) (s.stays_step fs other)
    fun _ hu => sh.spares fs mediated hu other

/-- Whatever the others do, in however many steps. -/
theorem Shared.untouched_run (sh : s.Shared) (fs : Files) {commands : List Command}
    (others : ∀ c ∈ commands, c.Mediated ∧ c.target? ≠ some u) :
    s.Untouched (s.run fs commands) u := by
  induction commands generalizing s with
  | nil => exact sh.untouched_refl u
  | cons c later ih =>
    have ⟨mediated, other⟩ := others c List.mem_cons_self
    have first := sh.untouched_step fs mediated other
    exact first.trans (ih (sh.step fs mediated) fun d hd => others d (List.mem_cons_of_mem _ hd))

/-- Wherever stores and synthesizers take a session by themselves, what one of them does, succeeding
or failing, leaves every other one untouched, and so does all that the others do together. -/
theorem untouched_of_ne_target (reachable : s.Reachable Command.Mediated) :
    (∀ fs c u, c.Mediated → c.target? ≠ some u → s.Untouched (s.step fs c).2 u) ∧
      ∀ fs commands u, (∀ c ∈ commands, c.Mediated ∧ c.target? ≠ some u) →
        s.Untouched (s.run fs commands) u :=
  ⟨fun fs _ _ mediated other => reachable.shared.untouched_step fs mediated other,
    fun fs _ _ others => reachable.shared.untouched_run fs others⟩

/-- Closing the synthesizer leaves the store its sample. The store is asked to release the sample of
the synthesizer, and is dropped, and the synthesizer has its sample and zones. -/
theorem untouched_busyPair :
    busyPair.Untouched (busyPair.step ⟨"", []⟩ (.synth 0 .close)).2 (.store 0) ∧
      let after := busyPair.run ⟨"", []⟩ [.store 0 (.release ⟨1⟩), .store 0 .drop]
      after.synth? 0 = busyPair.synth? 0 ∧
        after.engine.sample? ⟨1⟩ = busyPair.engine.sample? ⟨1⟩ ∧
          after.engine.zones ⟨0⟩ ⟨0, 0⟩ = [⟨⟨1⟩, 10, 20⟩, ⟨⟨1⟩, 30, 40⟩] := by
  have ⟨one, many⟩ := untouched_of_ne_target reachable_busyPair
  have closed := one ⟨"", []⟩ (.synth 0 .close) (.store 0) trivial (by decide)
  have dropped := many ⟨"", []⟩ [.store 0 (.release ⟨1⟩), .store 0 .drop] (.synth 0) (by decide)
  exact ⟨closed, dropped.synth 0 _ rfl rfl, (dropped.samples _ rfl ⟨1⟩ (by decide)).2,
    (dropped.native 0 _ ⟨0⟩ rfl rfl rfl).zones ⟨0, 0⟩⟩

end Session

end SampleBank
