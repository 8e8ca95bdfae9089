import Mathlib.Algebra.GroupWithZero.Nat
import SampleBank.Proofs.Session.Isolation

/-!
# Who owns a sample

As long as only stores and synthesizers call the engine of a session, what they hold is
`Session.Exclusive`: no sample has two holders, every held sample is live as its holder has recorded
it, and nothing else is live.

`Session.exclusive_and_deleted_iff_releases` adds what becomes of a sample. A command that releases
it at its holder (`Command.releases`) deletes it at the engine, and every other command leaves it
live, the same and with the same holder. So a sample that was loaded is deleted once, and by its
holder, even when its handle has been given out before or will be again.
-/

namespace SampleBank

open scoped List

/-- Whether a command is to take a sample away from a holder. -/
def Command.releases (u : Holder) (h : SampleHandle) : Command → Bool
  | .store i command => u = .store i && command.releases h
  | .synth i command => u = .synth i && command.releases h
  | _ => false

namespace Session

/-- All stores that were not dropped, those inside synthesizers last. -/
def holdings (s : Session) : List Store := s.liveStores ++ s.liveSynths.map (·.store)

/-- Every live sample has exactly one holder. -/
structure Exclusive (s : Session) : Prop where
  /-- What one holds, no other does. -/
  disjoint : ∀ u v a b, s.storeOf? u = some a → s.storeOf? v = some b → u ≠ v →
    a.handles.Disjoint b.handles
  /-- What is held is live, as it was recorded. -/
  live : ∀ u store, s.storeOf? u = some store → ∀ h ∈ store.handles,
    ∃ sample data, store.lookup h = some sample ∧ sample.handle = h ∧
      s.engine.sample? h = some ⟨sample.filename, sample.rootKey, data⟩
  /-- What is live is held. -/
  held : ∀ h ∈ s.engine.handles, ∃ u store, s.storeOf? u = some store ∧ h ∈ store.handles
  counted : s.engine.liveSamples = (s.holdings.map (·.size)).sum

variable {s : Session} {i : Nat} {u v : Holder} {store store' : Store} {synth : Synth}
  {h : SampleHandle} {fs : Files}

/-! ### Exclusive ownership -/

theorem Shared.disjoint (sh : s.Shared) (hu : s.storeOf? u = some store)
    (hv : s.storeOf? v = some store') (ne : u ≠ v) : store.handles.Disjoint store'.handles := by
  intro h held held'
  cases u with
  | store i =>
    have beside := (sh.front_store hu).store_beside
    exact beside.not_mem_rest held ((among_of_ne_store ne.symm).held hv held')
  | synth i =>
    obtain ⟨synth, hs, rfl⟩ := exists_synth_of_storeOf? hu
    have beside := (sh.front_synth hs).rig_beside
    exact beside.store.not_mem_rest held ((among_of_ne_synth ne.symm).held hv held')

theorem Shared.recorded_of_storeOf? (sh : s.Shared) (hu : s.storeOf? u = some store) :
    store.Recorded s.engine := by
  cases u with
  | store i => exact sh.recorded store (mem_filterMap_of_getElem? (getElem?_of_store? hu))
  | synth i =>
    obtain ⟨synth, hs, rfl⟩ := exists_synth_of_storeOf? hu
    exact sh.recorded_synth synth (mem_filterMap_of_getElem? (getElem?_of_synth? hs))

/-- Every live sample is held by someone. -/
theorem Shared.exists_holder (sh : s.Shared) (live : h ∈ s.engine.handles) :
    ∃ u store, s.storeOf? u = some store ∧ h ∈ store.handles := by
  rcases List.mem_append.1 (sh.held.mem_iff.2 live) with mem | mem
  · obtain ⟨store, hs, held⟩ := List.mem_flatMap.1 mem
    obtain ⟨j, here⟩ := exists_place_of_mem hs
    exact ⟨.store j, store, here, held⟩
  · obtain ⟨synth, hs, held⟩ := List.mem_flatMap.1 mem
    obtain ⟨j, here⟩ := exists_place_of_mem hs
    exact ⟨.synth j, synth.store, congrArg (Option.map Synth.store) here, held⟩

/-- What stores and synthesizers share is held by one of them at a time. -/
theorem Shared.exclusive (sh : s.Shared) : s.Exclusive where
  disjoint u v a b hu hv ne := sh.disjoint hu hv ne
  live u store hu h held := by
    obtain ⟨sample, found⟩ := Store.mem_handles_iff_lookup.1 held
    obtain ⟨eq, data, live⟩ := sh.recorded_of_storeOf? hu h sample found
    exact ⟨sample, data, found, eq, live⟩
  held h live := sh.exists_holder live
  counted := by
    have all : s.holdings.flatMap (·.handles) = heldBy s.liveStores s.liveSynths := by
      rw [holdings, List.flatMap_append, List.flatMap_map, heldBy]
    calc s.engine.liveSamples
      _ = s.engine.handles.length := s.engine.length_handles.symm
      _ = (s.holdings.flatMap (·.handles)).length := by rw [all, sh.held.length_eq]
      _ = (s.holdings.map (·.size)).sum := by
        rw [List.length_flatMap]
        exact congrArg List.sum (List.map_congr_left fun store _ => store.length_handles)

/-! ### What becomes of a sample -/

/-- A holder has a sample in both sessions, and it is live and the same in both. -/
def Keeps (s s' : Session) (u : Holder) (h : SampleHandle) : Prop :=
  ∃ store, s'.storeOf? u = some store ∧ h ∈ store.handles ∧ s'.engine.sample? h = s.engine.sample? h

/-- A sample that its holder has let go of is deleted, and one that it has not is kept. -/
theorem deleted_or_kept {s s' : Store} {e e' : Engine} {rest released : List SampleHandle}
    {releases : Bool} (before : s.Beside rest e) (after : s'.Beside rest e')
    (keeps : ∀ h ∈ s.handles, h ∉ released → h ∈ s'.handles ∧ e'.sample? h = e.sample? h)
    (held : h ∈ s.handles) (taken : if releases then h ∉ s'.handles else h ∉ released) :
    if releases then h ∉ e'.handles else h ∈ s'.handles ∧ e'.sample? h = e.sample? h := by
  cases releases with
  | false => exact keeps h held taken
  | true =>
    intro live
    -- whatever is live has a holder, which was this one and never another
    rcases List.mem_append.1 (after.handles.mem_iff.2 live) with left | other
    · exact taken left
    · exact before.not_mem_rest held other

theorem getElem?_set_self {α : Type} {l : List (Option α)} {a : α} (here : l[i]? = some (some a))
    (left : Option α) : (l.set i left)[i]? = some left := by
  obtain ⟨lt, -⟩ := List.getElem?_eq_some_iff.1 here
  rw [List.getElem?_set_self lt]

/-- After a command a store has what the command has left it. -/
theorem storeOf?_step_store (hs : s.store? i = some store) (fs : Files) (command : StoreCommand) :
    (s.step fs (.store i command)).2.storeOf? (.store i) =
      (runStore fs store s.engine command).2.1 := by
  rw [step_store_eq hs]
  change ((s.stores.set i _)[i]?).join = _
  rw [getElem?_set_self (getElem?_of_store? hs)]
  rfl

/-- After a command a synthesizer is what the command has left of it. -/
theorem synth?_step_synth (hs : s.synth? i = some synth) (fs : Files) (command : SynthCommand) :
    (s.step fs (.synth i command)).2.synth? i = (runSynth fs ⟨synth, s.engine⟩ command).2.1 := by
  rw [step_synth_eq hs]
  change ((s.synths.set i _)[i]?).join = _
  rw [getElem?_set_self (getElem?_of_synth? hs)]
  rfl

/-- An operation that leaves its synthesizer and the engine as they were leaves the session so. -/
theorem step_synth_self {command : SynthCommand} {answer : Outcome}
    (hs : s.synth? i = some synth)
    (same : runSynth fs ⟨synth, s.engine⟩ command = (answer, some synth, s.engine)) :
    s.step fs (.synth i command) = (answer, s) := by
  obtain ⟨lt, here⟩ := List.getElem?_eq_some_iff.1 (getElem?_of_synth? hs)
  rw [step, hs]
  simp only [same]
  rw [← here, List.set_getElem_self lt]

/-- After a command the store of a synthesizer has what the command has left it. -/
theorem storeOf?_step_synth (hs : s.synth? i = some synth) (fs : Files) (command : SynthCommand) :
    (s.step fs (.synth i command)).2.storeOf? (.synth i) =
      (runSynth fs ⟨synth, s.engine⟩ command).2.1.map (·.store) :=
  congrArg (Option.map Synth.store) (synth?_step_synth hs fs command)

/-- A step of the store that has the sample deletes it or keeps it, as the command says. -/
theorem Shared.step_of_store (sh : s.Shared) (fs : Files) (command : StoreCommand)
    (hs : s.store? i = some store) (held : h ∈ store.handles) :
    if command.releases h then h ∉ (s.step fs (.store i command)).2.engine.handles
    else s.Keeps (s.step fs (.store i command)).2 (.store i) h := by
  have beside := (sh.front_store hs).store_beside
  obtain ⟨released, moves, taken⟩ := moves_runStore beside (playedBy s.liveSynths) fs command
  have becomes := deleted_or_kept beside moves.beside moves.keeps held (taken h)
  rw [← engine_step_store hs] at becomes
  split
  · rename_i releases
    rwa [if_pos releases] at becomes
  · rename_i releases
    rw [if_neg releases] at becomes
    cases left : (runStore fs store s.engine command).2.1 with
    -- a store that is dropped keeps nothing
    | none =>
      rw [left] at becomes
      exact absurd becomes.1 List.not_mem_nil
    | some store' =>
      rw [left] at becomes
      exact ⟨store', (storeOf?_step_store hs fs command).trans left, becomes⟩

/-- A step of the synthesizer that has the sample deletes it or keeps it, as the command says. -/
theorem Shared.step_of_synth (sh : s.Shared) (fs : Files) (command : SynthCommand)
    (hs : s.synth? i = some synth) (held : h ∈ synth.store.handles) :
    if command.releases h then h ∉ (s.step fs (.synth i command)).2.engine.handles
    else s.Keeps (s.step fs (.synth i command)).2 (.synth i) h := by
  have beside := (sh.front_synth hs).rig_beside
  obtain ⟨released, moves, taken⟩ := moves_runSynth beside fs command
  have becomes := deleted_or_kept beside.store moves.beside.store moves.keeps held (taken h)
  rw [← engine_step_synth hs] at becomes
  split
  · rename_i releases
    rwa [if_pos releases] at becomes
  · rename_i releases
    rw [if_neg releases] at becomes
    cases left : (runSynth fs ⟨synth, s.engine⟩ command).2.1 with
    | none =>
      rw [left] at becomes
      exact absurd becomes.1 List.not_mem_nil
    | some synth' =>
      rw [left] at becomes
      refine ⟨synth'.store, ?_, becomes⟩
      rw [storeOf?_step_synth hs, left]
      rfl

/-- A command that is not meant for its holder keeps a sample. -/
theorem Shared.keeps_of_ne_target (sh : s.Shared) (fs : Files) {c : Command}
    (mediated : c.Mediated) (hu : s.storeOf? u = some store) (held : h ∈ store.handles)
    (other : c.target? ≠ some u) : s.Keeps (s.step fs c).2 u h :=
  ⟨store, (s.stays_step fs other).storeOf? hu, held,
    (sh.spares fs mediated hu other).sample? h held⟩

/-- A command deletes the samples that it releases at their holder, and keeps all others. -/
theorem Shared.deletes_or_keeps (sh : s.Shared) (fs : Files) {c : Command} (mediated : c.Mediated)
    (hu : s.storeOf? u = some store) (held : h ∈ store.handles) :
    if c.releases u h then h ∉ (s.step fs c).2.engine.handles
    else s.Keeps (s.step fs c).2 u h := by
  cases c with
  | engine command => exact mediated.elim
  | setRefusal | newStore | newSynth | startedSynth =>
    exact sh.keeps_of_ne_target fs mediated hu held nofun
  | store i command =>
    by_cases target : u = .store i
    · subst target
      rw [Command.releases, decide_eq_true rfl, Bool.true_and]
      exact sh.step_of_store fs command hu held
    · rw [Command.releases, decide_eq_false target, Bool.false_and]
      exact sh.keeps_of_ne_target fs mediated hu held fun eq => target (Option.some.inj eq).symm
  | synth i command =>
    by_cases target : u = .synth i
    · subst target
      obtain ⟨synth, hs, rfl⟩ := exists_synth_of_storeOf? hu
      rw [Command.releases, decide_eq_true rfl, Bool.true_and]
      exact sh.step_of_synth fs command hs held
    · rw [Command.releases, decide_eq_false target, Bool.false_and]
      exact sh.keeps_of_ne_target fs mediated hu held fun eq => target (Option.some.inj eq).symm

/-- Wherever stores and synthesizers take a session by themselves, every live sample has exactly one
holder. It is deleted by the command that releases it there and by no other. -/
theorem exclusive_and_deleted_iff_releases (reachable : s.Reachable Command.Mediated) :
    s.Exclusive ∧ ∀ fs c, c.Mediated → ∀ u store, s.storeOf? u = some store →
      ∀ h ∈ store.handles,
        if c.releases u h then h ∉ (s.step fs c).2.engine.handles
        else s.Keeps (s.step fs c).2 u h :=
  ⟨reachable.shared.exclusive, fun fs _ mediated _ _ hu _ held =>
    reachable.shared.deletes_or_keeps fs mediated hu held⟩

/-- Releasing everything the store has leaves the synthesizer its sample. -/
theorem exclusive_busyPair :
    busyPair.Exclusive ∧
      let after := (busyPair.step ⟨"", []⟩ (.store 0 .releaseAll)).2
      ⟨0⟩ ∉ after.engine.handles ∧ busyPair.Keeps after (.synth 0) ⟨1⟩ := by
  have ⟨exclusive, becomes⟩ := exclusive_and_deleted_iff_releases reachable_busyPair
  have released := becomes ⟨"", []⟩ (.store 0 .releaseAll) trivial
  exact ⟨exclusive, released (.store 0) _ rfl ⟨0⟩ (by decide),
    released (.synth 0) _ rfl ⟨1⟩ (by decide)⟩

end Session

end SampleBank
