import Mathlib.Data.List.Perm.Basic
import SampleBank.Proofs.Layout.Apply

/-!
# One engine and all its users

`Engine.SharedBy` is the invariant of a session whose engine is called by its stores and
synthesizers only: what the stores hold, those inside the synthesizers included, is what is live,
each sample once; what the synthesizers play on are the engine's synths, each once; every store's
records and every synthesizer's key map agree with the engine.

Who comes first in the lists does not matter, so any user can be put in front and then stands beside
all others (`SharedBy.store_beside`, `SharedBy.rig_beside`). A step of that user keeps the
invariant, because what it leaves to the others is all that their part of the invariant depends on
(`SharedBy.of_store_moves`, `SharedBy.of_rig_moves`). From one step it passes to everything that is
`Session.Reachable` (`Session.Reachable.shared`).
-/

namespace SampleBank

open scoped List

/-! ### What agreement depends on -/

namespace Engine.Spares

variable {rest : List SampleHandle} {others : List SynthHandle} {e e' : Engine}

/-- A store of the others finds its samples as they were. -/
theorem recorded {s : Store} (spares : e.Spares rest others e') (h : s.Recorded e)
    (held : s.handles ⊆ rest) : s.Recorded e' := by
  intro k sample hk
  have mem : k ∈ s.handles := Store.mem_handles_iff_lookup.2 ⟨sample, hk⟩
  rw [spares.sample? k (held mem)]
  exact h k sample hk

/-- A synthesizer of the others finds its zones and SoundFonts as they were. -/
theorem mirrored {s : Synth} (spares : e.Spares rest others e') (h : s.Mirrored e)
    (held : s.store.handles ⊆ rest) (played : s.handle?.toList ⊆ others) : s.Mirrored e' where
  loaded := h.loaded
  handle := h.handle
  zones native active p := by
    have mem : native ∈ others := played (by simp [active.handle?])
    -- its zones play samples of its own store, so no sweep for another has touched them
    have own : ∀ q, ∀ z ∈ e.zones native q, z.sample ∈ rest := fun q z hz =>
      held (h.sample_mem active q z hz)
    rw [spares.zones native mem own]
    exact h.zones native active p
  fonts native fonts active hf := by
    have mem : native ∈ others := played (by simp [active.handle?])
    rw [spares.fonts native mem] at hf
    exact h.fonts native fonts active hf
  idle := h.idle

end Engine.Spares

/-! ### The invariant -/

/-- What stores and synthesizers hold. -/
def heldBy (stores : List Store) (synths : List Synth) : List SampleHandle :=
  stores.flatMap (·.handles) ++ synths.flatMap (·.store.handles)

/-- The engine's synths on which synthesizers play. -/
def playedBy (synths : List Synth) : List SynthHandle := synths.flatMap (·.handle?.toList)

/-- An engine that is called by these stores and synthesizers only. -/
structure Engine.SharedBy (stores : List Store) (synths : List Synth) (e : Engine) : Prop where
  sound : e.Sound
  held : heldBy stores synths ~ e.handles
  played : playedBy synths ~ e.synths
  recorded : ∀ store ∈ stores, store.Recorded e
  recorded_synth : ∀ synth ∈ synths, synth.store.Recorded e
  mirrored : ∀ synth ∈ synths, synth.Mirrored e

section Users

variable {stores stores' : List Store} {synths synths' : List Synth} {store : Store}
  {synth : Synth} {e e' : Engine} {released : List SampleHandle}

/-- What the store in front holds comes first. -/
theorem heldBy_cons_store :
    heldBy (store :: stores) synths = store.handles ++ heldBy stores synths := by
  rw [heldBy, List.flatMap_cons, List.append_assoc, heldBy]

/-- Up to order, what the synthesizer in front holds comes first. -/
theorem heldBy_cons_synth :
    heldBy stores (synth :: synths) ~ synth.store.handles ++ heldBy stores synths := by
  rw [heldBy, List.flatMap_cons, ← List.append_assoc]
  refine (List.perm_append_comm.append_right _).trans ?_
  rw [List.append_assoc, heldBy]

/-- What is held together does not depend on the order of the holders. -/
theorem heldBy_perm (h_stores : stores ~ stores') (h_synths : synths ~ synths') :
    heldBy stores synths ~ heldBy stores' synths' :=
  (h_stores.flatMap_right _).append (h_synths.flatMap_right _)

/-- What one of the stores holds is held. -/
theorem handles_subset_heldBy (h : store ∈ stores) : store.handles ⊆ heldBy stores synths := by
  intro k hk
  exact List.mem_append_left _ (List.mem_flatMap.2 ⟨store, h, hk⟩)

/-- What the store of one of the synthesizers holds is held. -/
theorem synth_handles_subset_heldBy (h : synth ∈ synths) :
    synth.store.handles ⊆ heldBy stores synths := by
  intro k hk
  exact List.mem_append_right _ (List.mem_flatMap.2 ⟨synth, h, hk⟩)

/-- The synth of one of the synthesizers is among those that are played on. -/
theorem handle?_subset_playedBy (h : synth ∈ synths) :
    synth.handle?.toList ⊆ playedBy synths := by
  intro native hn
  exact List.mem_flatMap.2 ⟨synth, h, hn⟩

namespace Engine.SharedBy

/-- The invariant does not depend on the order of the users. -/
theorem perm (sh : e.SharedBy stores synths) (h_stores : stores ~ stores')
    (h_synths : synths ~ synths') : e.SharedBy stores' synths' where
  sound := sh.sound
  held := (heldBy_perm h_stores h_synths).symm.trans sh.held
  played := (h_synths.flatMap_right _).symm.trans sh.played
  recorded store h := sh.recorded store (h_stores.mem_iff.2 h)
  recorded_synth synth h := sh.recorded_synth synth (h_synths.mem_iff.2 h)
  mirrored synth h := sh.mirrored synth (h_synths.mem_iff.2 h)

/-- The store in front stands beside all others. -/
theorem store_beside (sh : e.SharedBy (store :: stores) synths) :
    store.Beside (heldBy stores synths) e where
  sound := sh.sound
  handles := heldBy_cons_store ▸ sh.held
  recorded := sh.recorded store List.mem_cons_self

/-- The synthesizer in front stands beside all others. -/
theorem rig_beside (sh : e.SharedBy stores (synth :: synths)) :
    Rig.Beside (heldBy stores synths) (playedBy synths) ⟨synth, e⟩ where
  store := {
    sound := sh.sound
    handles := heldBy_cons_synth.symm.trans sh.held
    recorded := sh.recorded_synth synth List.mem_cons_self }
  synths := sh.played
  mirrored := sh.mirrored synth List.mem_cons_self

/-- A step of the store in front. -/
theorem of_store_moves {store' : Store} (sh : e.SharedBy (store :: stores) synths)
    (m : store.Moves (heldBy stores synths) (playedBy synths) released e store' e') :
    e'.SharedBy (store' :: stores) synths where
  sound := m.beside.sound
  held := heldBy_cons_store ▸ m.beside.handles
  played := m.synths.synths ▸ sh.played
  recorded other ho := by
    rcases List.mem_cons.1 ho with rfl | ho
    · exact m.beside.recorded
    · exact m.spares.recorded (sh.recorded other (List.mem_cons_of_mem _ ho))
        (handles_subset_heldBy ho)
  recorded_synth other ho :=
    m.spares.recorded (sh.recorded_synth other ho) (synth_handles_subset_heldBy ho)
  mirrored other ho :=
    m.spares.mirrored (sh.mirrored other ho) (synth_handles_subset_heldBy ho)
      (handle?_subset_playedBy ho)

/-- A step of the synthesizer in front. -/
theorem of_rig_moves {r : Rig Engine} (sh : e.SharedBy stores (synth :: synths))
    (m : Rig.Moves (heldBy stores synths) (playedBy synths) released ⟨synth, e⟩ r) :
    r.engine.SharedBy stores (r.synth :: synths) where
  sound := m.beside.store.sound
  held := heldBy_cons_synth.trans m.beside.store.handles
  played := m.beside.synths
  recorded other ho := m.spares.recorded (sh.recorded other ho) (handles_subset_heldBy ho)
  recorded_synth other ho := by
    rcases List.mem_cons.1 ho with rfl | ho
    · exact m.beside.store.recorded
    · exact m.spares.recorded (sh.recorded_synth other (List.mem_cons_of_mem _ ho))
        (synth_handles_subset_heldBy ho)
  mirrored other ho := by
    rcases List.mem_cons.1 ho with rfl | ho
    · exact m.beside.mirrored
    · exact m.spares.mirrored (sh.mirrored other (List.mem_cons_of_mem _ ho))
        (synth_handles_subset_heldBy ho) (handle?_subset_playedBy ho)

/-- A store that holds nothing makes no difference. -/
theorem cons_empty_iff : e.SharedBy (.empty :: stores) synths ↔ e.SharedBy stores synths := by
  constructor
  · intro sh
    exact ⟨sh.sound, sh.held, sh.played, fun other ho => sh.recorded other (.tail _ ho),
      sh.recorded_synth, sh.mirrored⟩
  · intro sh
    refine ⟨sh.sound, sh.held, sh.played, fun other ho => ?_, sh.recorded_synth, sh.mirrored⟩
    rcases List.mem_cons.1 ho with rfl | ho
    · exact nofun
    · exact sh.recorded other ho

/-- Nor does a synthesizer that was never opened. -/
theorem cons_new_iff {policy : OverlapPolicy} :
    e.SharedBy stores (.new policy :: synths) ↔ e.SharedBy stores synths := by
  constructor
  · intro sh
    exact ⟨sh.sound, sh.held, sh.played, sh.recorded,
      fun other ho => sh.recorded_synth other (.tail _ ho),
      fun other ho => sh.mirrored other (.tail _ ho)⟩
  · intro sh
    have new := Rig.beside_new sh.sound sh.held sh.played policy
    refine ⟨sh.sound, sh.held, sh.played, sh.recorded, fun other ho => ?_, fun other ho => ?_⟩
    · rcases List.mem_cons.1 ho with rfl | ho
      · exact new.store.recorded
      · exact sh.recorded_synth other ho
    · rcases List.mem_cons.1 ho with rfl | ho
      · exact new.mirrored
      · exact sh.mirrored other ho

/-- A store that is gone after its last step has left nothing behind. -/
theorem of_getD_store {left : Option Store} (sh : e.SharedBy (left.getD .empty :: stores) synths) :
    e.SharedBy (left.toList ++ stores) synths := by
  cases left with
  | none => exact cons_empty_iff.1 sh
  | some store => exact sh

/-- A synthesizer that is gone can stand as a new one, which holds and plays nothing. -/
theorem of_getD_synth {left : Option Synth} {policy : OverlapPolicy}
    (sh : e.SharedBy stores (left.getD (.new policy) :: synths)) :
    e.SharedBy stores (left.toList ++ synths) := by
  cases left with
  | none => exact cons_new_iff.1 sh
  | some synth => exact sh

end Engine.SharedBy

end Users

/-! ### One command at one user -/

/-- Whether an operation of a store is to take a sample away from it. -/
def StoreCommand.releases (h : SampleHandle) : StoreCommand → Bool
  | .load .. => false
  | .release k => k = h
  | .releaseAll | .drop => true

/-- Whether an operation of a synthesizer is to take a sample away from it. -/
def SynthCommand.releases (h : SampleHandle) : SynthCommand → Bool
  | .release k => k = h
  | .close | .drop => true
  | _ => false

/-- Whether a command leaves it to stores and synthesizers to call the engine. -/
def Command.Mediated : Command → Prop
  | .engine _ => False
  | _ => True

instance : DecidablePred Command.Mediated := fun c =>
  match c with
  | .engine _ => .isFalse id
  | .setRefusal .. | .newStore | .store .. | .newSynth .. | .startedSynth .. | .synth .. =>
    .isTrue trivial

namespace Session

/-- What a command does to its store; one that was dropped counts as empty. -/
theorem moves_runStore {rest : List SampleHandle} {store : Store} {e : Engine}
    (b : store.Beside rest e) (others : List SynthHandle) (fs : Files) (command : StoreCommand) :
    ∃ released, store.Moves rest others released e
        ((runStore fs store e command).2.1.getD .empty) (runStore fs store e command).2.2 ∧
      ∀ h, if command.releases h then
          h ∉ ((runStore fs store e command).2.1.getD .empty).handles
        else h ∉ released := by
  cases command with
  | load path rootKey =>
    exact ⟨[], Store.moves_load b others fs path rootKey, fun h => List.not_mem_nil⟩
  | release k =>
    refine ⟨[k], Store.moves_release b others k, fun h => ?_⟩
    simp only [StoreCommand.releases, decide_eq_true_eq]
    split
    · rename_i eq
      rw [← eq]
      intro held
      exact (Store.mem_handles_release.1 held).1 rfl
    · rename_i ne
      rw [List.mem_singleton]
      exact fun eq => ne eq.symm
  | releaseAll =>
    have ⟨moves, empty⟩ := Store.moves_releaseAll b others
    refine ⟨store.handles, moves, fun h => ?_⟩
    have nothing : h ∉ (store.releaseAll e).1.handles := empty ▸ List.not_mem_nil
    exact nothing
  | drop =>
    have ⟨moves, empty⟩ := Store.moves_releaseAll b others
    rw [Store.eq_empty_of_handles_eq_nil empty] at moves
    exact ⟨store.handles, moves, fun h => List.not_mem_nil⟩

/-- What a command does to its synthesizer; one that was dropped counts as new. -/
theorem moves_runSynth {rest : List SampleHandle} {others : List SynthHandle} {r : Rig Engine}
    (b : r.Beside rest others) (fs : Files) (command : SynthCommand) :
    ∃ released, r.Moves rest others released
        ⟨(runSynth fs r command).2.1.getD (.new .reject), (runSynth fs r command).2.2⟩ ∧
      ∀ h, if command.releases h then
          h ∉ ((runSynth fs r command).2.1.getD (.new .reject)).store.handles
        else h ∉ released := by
  cases command with
  | start => exact ⟨[], Rig.moves_start b, fun h => List.not_mem_nil⟩
  | load path rootKey =>
    exact ⟨[], Rig.moves_loadSample b fs path rootKey, fun h => List.not_mem_nil⟩
  | bind p lokey hikey k => exact ⟨[], Rig.moves_bind b p lokey hikey k, fun h => List.not_mem_nil⟩
  | unbind p k => exact ⟨[], Rig.moves_unbind b p k, fun h => List.not_mem_nil⟩
  | loadSoundFont path => exact ⟨[], Rig.moves_loadSoundFont b fs path, fun h => List.not_mem_nil⟩
  | apply layout base => exact ⟨[], layout.moves_apply b fs base, fun h => List.not_mem_nil⟩
  | applyBinding binding base =>
    exact ⟨[], binding.moves_apply b fs base, fun h => List.not_mem_nil⟩
  | close =>
    refine ⟨r.synth.store.handles, Rig.moves_close b, fun h => ?_⟩
    have nothing : h ∉ r.close.synth.store.handles := Rig.handles_close b ▸ List.not_mem_nil
    exact nothing
  | drop => exact ⟨r.synth.store.handles, Rig.moves_drop b .reject, fun h => List.not_mem_nil⟩
  | release k =>
    refine ⟨[k], Rig.moves_releaseSample b k, fun h => ?_⟩
    simp only [SynthCommand.releases, decide_eq_true_eq]
    split
    · rename_i eq
      rw [← eq]
      exact Rig.not_mem_of_releaseSample b k
    · rename_i ne
      rw [List.mem_singleton]
      exact fun eq => ne eq.symm

/-! ### Sessions -/

/-- The stores that were not dropped, without those inside synthesizers. -/
def liveStores (s : Session) : List Store := s.stores.filterMap id

/-- The synthesizers that were not dropped. -/
def liveSynths (s : Session) : List Synth := s.synths.filterMap id

/-- The engine of a session is called by its stores and synthesizers only. -/
def Shared (s : Session) : Prop := s.engine.SharedBy s.liveStores s.liveSynths

/-- The users in a list that are still there, without the one in a place. -/
def others {α : Type} (l : List (Option α)) (i : Nat) : List α := (l.eraseIdx i).filterMap id

section Places

variable {α : Type} {l : List (Option α)} {i : Nat} {a : α}

/-- Replacing what stands in a place leaves the others. -/
theorem filterMap_set_perm (h : l[i]? = some (some a)) (left : Option α) :
    (l.set i left).filterMap id ~ left.toList ++ others l i := by
  obtain ⟨lt, -⟩ := List.getElem?_eq_some_iff.1 h
  refine ((List.set_perm_cons_eraseIdx lt left).filterMap id).trans (.of_eq ?_)
  cases left with
  | none => rfl
  | some b => rfl

/-- What stands in a place can be put in front. -/
theorem filterMap_perm (h : l[i]? = some (some a)) : l.filterMap id ~ a :: others l i := by
  have same := filterMap_set_perm h (some a)
  obtain ⟨lt, here⟩ := List.getElem?_eq_some_iff.1 h
  rw [← here, List.set_getElem_self lt, here] at same
  exact same

theorem mem_filterMap_of_getElem? (h : l[i]? = some (some a)) : a ∈ l.filterMap id :=
  List.mem_filterMap.2 ⟨some a, List.mem_of_getElem? h, rfl⟩

/-- Whoever is there has a place. -/
theorem exists_place_of_mem (h : a ∈ l.filterMap id) : ∃ j : Nat, (l[j]?).join = some a := by
  obtain ⟨o, ho, eq⟩ := List.mem_filterMap.1 h
  obtain ⟨j, here⟩ := List.mem_iff_getElem?.1 ho
  exact ⟨j, by rw [here, Option.join_some, ← eq, id_eq]⟩

/-- Whoever has another place is one of the others. -/
theorem mem_others {j : Nat} (ne : j ≠ i) (h : l[j]? = some (some a)) : a ∈ others l i :=
  List.mem_filterMap.2 ⟨some a, List.mem_eraseIdx_iff_getElem?.2 ⟨j, ne, h⟩, rfl⟩

/-- A user who joins comes last, but might as well come first. -/
theorem filterMap_append_perm (l : List (Option α)) (a : α) :
    (l ++ [some a]).filterMap id ~ a :: l.filterMap id := by
  rw [List.filterMap_append]
  exact List.perm_append_comm

end Places

variable {s : Session} {i : Nat} {store : Store} {synth : Synth} {fs : Files}

theorem getElem?_of_synth? (hs : s.synth? i = some synth) : s.synths[i]? = some (some synth) := by
  rwa [synth?, Option.join_eq_some_iff] at hs

theorem getElem?_of_store? (hs : s.store? i = some store) : s.stores[i]? = some (some store) := by
  rwa [store?, Option.join_eq_some_iff] at hs

/-- A command to a store changes that store and the engine. -/
theorem step_store_eq (hs : s.store? i = some store) (fs : Files) (command : StoreCommand) :
    (s.step fs (.store i command)).2 =
      { s with
        engine := (runStore fs store s.engine command).2.2
        stores := s.stores.set i (runStore fs store s.engine command).2.1 } := by
  rw [step, hs]

/-- A command to a synthesizer changes that synthesizer and the engine. -/
theorem step_synth_eq (hs : s.synth? i = some synth) (fs : Files) (command : SynthCommand) :
    (s.step fs (.synth i command)).2 =
      { s with
        engine := (runSynth fs ⟨synth, s.engine⟩ command).2.2
        synths := s.synths.set i (runSynth fs ⟨synth, s.engine⟩ command).2.1 } := by
  rw [step, hs]

namespace Shared

/-- A store of a session can be put in front of its users. -/
theorem front_store (sh : s.Shared) (hs : s.store? i = some store) :
    s.engine.SharedBy (store :: others s.stores i) s.liveSynths :=
  sh.perm (filterMap_perm (getElem?_of_store? hs)) (.refl _)

/-- A synthesizer of a session can be put in front of its users. -/
theorem front_synth (sh : s.Shared) (hs : s.synth? i = some synth) :
    s.engine.SharedBy s.liveStores (synth :: others s.synths i) :=
  sh.perm (.refl _) (filterMap_perm (getElem?_of_synth? hs))

/-- The synthesizers of a session have a synth at the engine exactly while they are open. -/
theorem handleAgrees (sh : s.Shared) (hs : s.synth? i = some synth) : synth.HandleAgrees :=
  (sh.front_synth hs).rig_beside.mirrored.handle

/-- Which calls a mock engine refuses is nothing that its users agree on with it. -/
theorem setRefusal {stores : List Store} {synths : List Synth} {m : Mock}
    (sh : (Engine.mock m).SharedBy stores synths) (call : MockCall) (on : Bool) :
    (Engine.mock (m.setRefusal call on)).SharedBy stores synths where
  sound := ⟨sh.sound.zone_synth, sh.sound.zone_sample, sh.sound.sample_lt, sh.sound.synth_lt⟩
  held := sh.held
  played := sh.played
  recorded := sh.recorded
  recorded_synth := sh.recorded_synth
  mirrored synth h := ⟨(sh.mirrored synth h).handle, (sh.mirrored synth h).loaded,
    (sh.mirrored synth h).zones, (sh.mirrored synth h).fonts, (sh.mirrored synth h).idle⟩

/-- A new synthesizer starts on the engine, or leaves it as it was. -/
theorem startedSynth (sh : s.Shared) (fs : Files) (policy : OverlapPolicy) :
    (s.step fs (.startedSynth policy)).2.Shared := by
  have new : s.engine.SharedBy s.liveStores (.new policy :: s.liveSynths) :=
    Engine.SharedBy.cons_new_iff.2 sh
  have start := Rig.moves_start new.rig_beside
  rw [step]
  rcases opened : Rig.start ⟨.new policy, s.engine⟩ with ⟨answer, r⟩
  rw [opened] at start
  have moved := new.of_rig_moves start
  cases answer with
  -- a synthesizer that cannot be opened is dropped at once
  | error cause =>
    have dropped := moved.of_rig_moves (Rig.moves_drop start.beside policy)
    exact Engine.SharedBy.cons_new_iff.1 dropped
  | ok _ =>
    exact moved.perm (.refl _) (filterMap_append_perm s.synths r.synth).symm

/-- A command that leaves the engine to its users keeps the invariant. -/
theorem step (sh : s.Shared) (fs : Files) {c : Command} (mediated : c.Mediated) :
    (s.step fs c).2.Shared := by
  cases c with
  | engine command => exact mediated.elim
  | setRefusal call on =>
    obtain ⟨engine, stores, synths⟩ := s
    cases engine with
    | ram r => exact sh
    | mock m => exact setRefusal sh call on
  | newStore =>
    have joined := Engine.SharedBy.cons_empty_iff.2 sh
    exact joined.perm (filterMap_append_perm s.stores .empty).symm (.refl _)
  | store i command =>
    cases hs : s.store? i with
    | none =>
      rw [Session.step, hs]
      exact sh
    | some store =>
      have front := sh.front_store hs
      obtain ⟨released, moves, -⟩ := moves_runStore front.store_beside _ fs command
      rw [step_store_eq hs]
      exact (front.of_store_moves moves).of_getD_store.perm
        (filterMap_set_perm (getElem?_of_store? hs) _).symm (.refl _)
  | newSynth policy =>
    have joined : s.engine.SharedBy s.liveStores (.new policy :: s.liveSynths) :=
      Engine.SharedBy.cons_new_iff.2 sh
    exact joined.perm (.refl _) (filterMap_append_perm s.synths (.new policy)).symm
  | startedSynth policy => exact sh.startedSynth fs policy
  | synth i command =>
    cases hs : s.synth? i with
    | none =>
      rw [Session.step, hs]
      exact sh
    | some synth =>
      have front := sh.front_synth hs
      obtain ⟨released, moves, -⟩ := moves_runSynth front.rig_beside fs command
      rw [step_synth_eq hs]
      exact (front.of_rig_moves moves).of_getD_synth.perm (.refl _)
        (filterMap_set_perm (getElem?_of_synth? hs) _).symm

end Shared

/-- What a session that starts with a new engine and nothing else can come to by commands of the
`allowed` kind, in any order and whatever files there are at each. -/
inductive Reachable (allowed : Command → Prop) : Session → Prop
  | ram (maxSamples : Nat) (sampleRate : UInt32) :
    Reachable allowed (.new (.ram (.new maxSamples sampleRate)))
  | mock (name : String) : Reachable allowed (.new (.mock (.new name)))
  | step {s : Session} (fs : Files) {c : Command} :
    Reachable allowed s → allowed c → Reachable allowed (s.step fs c).2

namespace Reachable

/-- Commands of the allowed kind lead from reachable sessions to reachable ones. -/
theorem run {allowed : Command → Prop} (h : s.Reachable allowed) (fs : Files)
    {commands : List Command} (h_allowed : ∀ c ∈ commands, allowed c) :
    (s.run fs commands).Reachable allowed := by
  induction commands generalizing s with
  | nil => exact h
  | cons c later ih =>
    have first := h.step fs (h_allowed c List.mem_cons_self)
    exact ih first fun d hd => h_allowed d (List.mem_cons_of_mem _ hd)

/-- The invariant holds wherever a session gets to. -/
theorem shared (h : s.Reachable Command.Mediated) : s.Shared := by
  induction h with
  | ram maxSamples sampleRate =>
    exact ⟨Engine.sound_new_ram maxSamples sampleRate, .refl _, .refl _, nofun, nofun, nofun⟩
  | mock name => exact ⟨Engine.sound_new_mock name, .refl _, .refl _, nofun, nofun, nofun⟩
  | step fs _ mediated ih => exact ih.step fs mediated

end Reachable

/-- A store and a synthesizer on one mock engine. Each has a sample; the synthesizer's is bound
twice, and the engine has refused to detach it. -/
def busyPair : Session :=
  run ⟨"", []⟩ (.new (.mock (.new "shared")))
    [.newStore, .store 0 (.load ⟨[]⟩ 60),
      .startedSynth .reject, .synth 0 (.load ⟨[]⟩ 64),
      .synth 0 (.bind ⟨0, 0⟩ 10 20 ⟨1⟩), .synth 0 (.bind ⟨0, 0⟩ 30 40 ⟨1⟩),
      .setRefusal .unbind true, .synth 0 (.unbind ⟨0, 0⟩ ⟨1⟩)]

theorem reachable_busyPair : busyPair.Reachable Command.Mediated :=
  (Reachable.mock "shared").run _ (by decide)

end Session

end SampleBank
