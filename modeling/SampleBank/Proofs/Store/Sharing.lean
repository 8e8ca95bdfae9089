import SampleBank.Proofs.Engine.Refusal
import SampleBank.Proofs.Engine.Sharing
import SampleBank.Store

/-!
# Stores that share an engine

A store is `Beside` other users of its engine, who hold `rest`, when it and they hold exactly what
is live, each sample once, and the store's records agree with the engine's. Every operation of the
store keeps this and leaves to the others what is theirs (`Store.Moves`). A sample that the
operation is not meant to release stays, and stays the same.

A handle is deleted at the engine only while the store holds it (`Store.release`), and what it holds
nobody else does. This is what keeps a handle that the engine gives out again from being released
by its former owner.
-/

namespace SampleBank

namespace Store

open scoped List

/-- The engine has every sample of the store, from the file and with the root key that the store has
recorded. -/
def Recorded (s : Store) (e : Engine) : Prop :=
  ∀ h sample, s.lookup h = some sample →
    sample.handle = h ∧ ∃ data, e.sample? h = some ⟨sample.filename, sample.rootKey, data⟩

/-- A store, and an engine of which others hold `rest`: together they hold what is live. -/
structure Beside (rest : List SampleHandle) (s : Store) (e : Engine) : Prop where
  sound : e.Sound
  handles : s.handles ++ rest ~ e.handles
  recorded : s.Recorded e

/-- What an operation of a store does to it, its engine and the others. It may take away the samples
`released`, and no others. -/
structure Moves (rest : List SampleHandle) (others : List SynthHandle)
    (released : List SampleHandle) (s : Store) (e : Engine) (s' : Store) (e' : Engine) :
    Prop where
  beside : s'.Beside rest e'
  spares : e.Spares rest others e'
  synths : e.KeepsSynths e'
  keeps : ∀ h ∈ s.handles, h ∉ released → h ∈ s'.handles ∧ e'.sample? h = e.sample? h

variable {rest released : List SampleHandle} {others : List SynthHandle} {s s' s'' : Store}
  {e e' e'' : Engine} {h k : SampleHandle} {sample : Sample} {fs : Files} {path : FilePath}
  {rootKey : UInt8} {E : Type} [SampleEngine E] {a a' : E}

theorem mem_handles_iff : h ∈ s.handles ↔ s.contains h = true := SortedMap.mem_keys_iff

theorem mem_handles_iff_lookup : h ∈ s.handles ↔ ∃ sample, s.lookup h = some sample :=
  mem_handles_iff.trans SortedMap.contains_iff

/-- A store that holds nothing is as new. -/
theorem eq_empty_of_handles_eq_nil (h : s.handles = []) : s = .empty := by
  obtain ⟨⟨entries, ascending⟩⟩ := s
  obtain rfl := List.map_eq_nil_iff.1 h
  rfl

theorem length_handles (s : Store) : s.handles.length = s.size := SortedMap.length_keys _

namespace Beside

theorem live (b : s.Beside rest e) : rest ⊆ e.handles := by
  intro h hh
  exact b.handles.mem_iff.1 (List.mem_append_right _ hh)

theorem held_live (b : s.Beside rest e) : s.handles ⊆ e.handles := by
  intro h hh
  exact b.handles.mem_iff.1 (List.mem_append_left _ hh)

/-- What the store holds, nobody else does. -/
theorem not_mem_rest (b : s.Beside rest e) (held : h ∈ s.handles) : h ∉ rest := by
  have once : (s.handles ++ rest).Nodup := b.handles.nodup_iff.2 (Engine.nodup_handles e)
  intro hr
  exact (List.nodup_append.1 once).2.2 h held h hr rfl

/-- A call that does not touch samples does not touch the store. -/
theorem of_keepsSamples (b : s.Beside rest e) (samples : e.KeepsSamples e') (sound : e'.Sound) :
    s.Beside rest e' where
  sound := sound
  handles := samples.handles ▸ b.handles
  recorded h sample hh := by
    rw [samples.sample?]
    exact b.recorded h sample hh

/-- A sample that the store loads joins what it holds. -/
theorem load (b : s.Beside rest e) (l : e.Loaded h path rootKey e') :
    Beside rest ⟨s.samples.insert h ⟨h, path, rootKey⟩⟩ e' where
  sound := l.sound
  handles := by
    -- what is held is live, and a new handle is not that of a live sample
    have absent : s.samples.contains h = false := by
      rw [← Bool.not_eq_true, ← SortedMap.mem_keys_iff]
      intro held
      exact l.fresh (b.held_live held)
    have joined := SortedMap.keys_insert_perm (⟨h, path, rootKey⟩ : Sample) absent
    calc (s.samples.insert h ⟨h, path, rootKey⟩).keys ++ rest
      _ ~ h :: (s.handles ++ rest) := joined.append_right rest
      _ ~ h :: e.handles := b.handles.cons h
      _ ~ e'.handles := l.handles.symm
  recorded k sample hk := by
    obtain ⟨data, found⟩ := l.sample?
    rw [lookup, SortedMap.find?_insert_eq_ite] at hk
    rw [found]
    split at hk
    · rename_i eq
      obtain rfl := Option.some.inj hk
      rw [if_pos eq, eq]
      exact ⟨rfl, data, rfl⟩
    · rename_i ne
      rw [if_neg ne]
      exact b.recorded k sample hk

/-- A sample that the store releases leaves what it holds. -/
theorem release (b : s.Beside rest e) (held : h ∈ s.handles) (d : e.Deleted h e') :
    Beside rest ⟨s.samples.erase h⟩ e' where
  sound := d.sound
  handles := by
    have left := SortedMap.keys_erase_perm (mem_handles_iff.1 held)
    -- the store and the engine lose the same handle
    have split : h :: ((s.samples.erase h).keys ++ rest) ~ h :: e'.handles := calc
      h :: ((s.samples.erase h).keys ++ rest)
      _ ~ s.handles ++ rest := (left.append_right rest).symm
      _ ~ e.handles := b.handles
      _ ~ h :: e'.handles := d.handles (b.held_live held)
    exact split.cons_inv
  recorded k sample hk := by
    rw [lookup, SortedMap.find?_erase_eq_ite] at hk
    rw [d.sample?]
    split at hk
    · cases hk
    · rename_i ne
      rw [if_neg ne]
      exact b.recorded k sample hk

end Beside

/-! ### What each operation does -/

namespace Moves

theorem refl (b : s.Beside rest e) (others : List SynthHandle) :
    Moves rest others [] s e s e :=
  ⟨b, .refl rest others e, .refl e, fun _ held _ => ⟨held, rfl⟩⟩

theorem trans {released' : List SampleHandle} (first : Moves rest others released s e s' e')
    (second : Moves rest others released' s' e' s'' e'') :
    Moves rest others (released ++ released') s e s'' e'' where
  beside := second.beside
  spares := first.spares.trans second.spares
  synths := first.synths.trans second.synths
  keeps h held kept := by
    rw [List.mem_append, not_or] at kept
    have ⟨held', same⟩ := first.keeps h held kept.1
    have ⟨held'', same'⟩ := second.keeps h held' kept.2
    exact ⟨held'', same'.trans same⟩

end Moves

/-- A sample that is loaded is recorded under the handle that the engine gave it. -/
theorem eq_of_load_ok (loaded : s.load fs path rootKey a = (.ok sample, s', a')) :
    SampleEngine.loadSample fs path rootKey a = (.ok sample.handle, a') ∧
      sample = ⟨sample.handle, path, rootKey⟩ ∧
        s' = ⟨s.samples.insert sample.handle sample⟩ := by
  rw [load] at loaded
  split at loaded
  · cases (Prod.mk.inj loaded).1
  · split at loaded
    · cases (Prod.mk.inj loaded).1
    · rename_i agreed
      obtain ⟨answer, rfl, rfl⟩ := loaded
      exact ⟨agreed, rfl, rfl⟩

/-- A store that cannot load a sample is left as it was. Either the engine was not asked, or it has
refused. -/
theorem of_load_error {cause : Error} (failed : s.load fs path rootKey a = (.error cause, s', a')) :
    s' = s ∧
      (a' = a ∨ ∃ why, SampleEngine.loadSample fs path rootKey a = (.error why, a')) := by
  rw [load] at failed
  split at failed
  · obtain ⟨-, rfl, rfl⟩ := failed
    exact ⟨rfl, .inl rfl⟩
  · split at failed
    · rename_i refused
      obtain ⟨-, rfl, rfl⟩ := failed
      exact ⟨rfl, .inr ⟨_, refused⟩⟩
    · cases (Prod.mk.inj failed).1

theorem eq_of_load_error {cause : Error}
    (failed : s.load fs path rootKey e = (.error cause, s', e')) : s' = s ∧ e' = e := by
  obtain ⟨rfl, rfl | ⟨why, refused⟩⟩ := of_load_error failed
  · exact ⟨rfl, rfl⟩
  · exact ⟨rfl, Engine.eq_of_loadSample_error refused⟩

/-- Loading takes nothing from anyone. -/
theorem moves_of_loaded (b : s.Beside rest e) (others : List SynthHandle)
    (l : e.Loaded h path rootKey e') :
    Moves rest others [] s e ⟨s.samples.insert h ⟨h, path, rootKey⟩⟩ e' := by
  refine ⟨b.load l, l.spares b.live others, l.synths, ?_⟩
  intro k held _
  obtain ⟨data, found⟩ := l.sample?
  have ne : k ≠ h := by
    rintro rfl
    exact l.fresh (b.held_live held)
  rw [mem_handles_iff] at held ⊢
  exact ⟨SortedMap.contains_insert_iff.2 (.inr held), by rw [found, if_neg ne]⟩

theorem moves_load (b : s.Beside rest e) (others : List SynthHandle) (fs : Files)
    (path : FilePath) (rootKey : UInt8) :
    Moves rest others [] s e (s.load fs path rootKey e).2.1 (s.load fs path rootKey e).2.2 := by
  rcases loaded : s.load fs path rootKey e with ⟨answer, s', e'⟩
  cases answer with
  | error cause =>
    obtain ⟨rfl, rfl⟩ := eq_of_load_error loaded
    exact .refl b others
  | ok sample =>
    obtain ⟨agreed, recorded, rfl⟩ := eq_of_load_ok loaded
    have moves := moves_of_loaded b others (Engine.loaded_of_loadSample b.sound agreed)
    rwa [← recorded] at moves

theorem release_of_mem (held : h ∈ s.handles) (a : E) :
    s.release h a = (⟨s.samples.erase h⟩, SampleEngine.deleteSample h a) :=
  if_pos (mem_handles_iff.1 held)

theorem release_of_not_mem (absent : h ∉ s.handles) (a : E) : s.release h a = (s, a) :=
  if_neg fun held => absent (mem_handles_iff.2 held)

theorem mem_handles_release :
    k ∈ (s.release h a).1.handles ↔ k ≠ h ∧ k ∈ s.handles := by
  by_cases held : h ∈ s.handles
  · rw [release_of_mem held, mem_handles_iff, mem_handles_iff]
    exact SortedMap.contains_erase_iff
  · rw [release_of_not_mem held]
    exact ⟨fun hk => ⟨fun eq => held (eq ▸ hk), hk⟩, fun hk => hk.2⟩

/-- Whether or not the store held it, a sample that was released is not there any more. -/
theorem fst_release (h : SampleHandle) (s : Store) (a : E) :
    (s.release h a).1 = ⟨s.samples.erase h⟩ := by
  by_cases held : h ∈ s.handles
  · rw [release_of_mem held]
  · have absent : s.samples.contains h = false := by
      rwa [mem_handles_iff, Bool.not_eq_true] at held
    rw [release_of_not_mem held, SortedMap.erase_eq_self absent]

/-- What a store still holds after releasing handles one after the other, whatever becomes of them
at the engine. -/
theorem mem_handles_foldl_release (released : List SampleHandle) (s : Store) (a : E)
    (hk : k ∈ (released.foldl (fun (s, a) h => release h s a) (s, a)).1.handles) :
    k ∉ released ∧ k ∈ s.handles := by
  induction released generalizing s a with
  | nil => exact ⟨List.not_mem_nil, hk⟩
  | cons h later ih =>
    have ⟨not_later, kept⟩ := ih (s.release h a).1 (s.release h a).2 hk
    have ⟨ne, held⟩ := mem_handles_release.1 kept
    exact ⟨fun hmem => (List.mem_cons.1 hmem).elim ne not_later, held⟩

/-- A store that released everything is empty. -/
theorem fst_releaseAll (s : Store) (a : E) : (s.releaseAll a).1 = .empty := by
  refine eq_empty_of_handles_eq_nil (List.eq_nil_iff_forall_not_mem.2 fun k hk => ?_)
  have ⟨gone, held⟩ := mem_handles_foldl_release s.handles s a hk
  exact gone held

/-- Releasing a handle that the store does not hold does nothing, whoever holds it. -/
theorem moves_release (b : s.Beside rest e) (others : List SynthHandle) (h : SampleHandle) :
    Moves rest others [h] s e (s.release h e).1 (s.release h e).2 := by
  by_cases held : h ∈ s.handles
  · have d := Engine.deleted_deleteSample b.sound h
    rw [release_of_mem held]
    refine ⟨b.release held d, d.spares (b.not_mem_rest held) others, d.synths, ?_⟩
    intro k hk kept
    have ne : k ≠ h := List.ne_of_not_mem_cons kept
    rw [mem_handles_iff] at hk ⊢
    exact ⟨SortedMap.contains_erase_iff.2 ⟨ne, hk⟩, (d.sample? k).trans (if_neg ne)⟩
  · rw [release_of_not_mem held]
    exact ⟨b, .refl rest others e, .refl e, fun _ hk _ => ⟨hk, rfl⟩⟩

/-- Releasing handles one after the other, whatever their order and whether they are held. -/
theorem moves_foldl_release (b : s.Beside rest e) (others : List SynthHandle)
    (released : List SampleHandle) :
    let left := released.foldl (fun (s, e) h => release h s e) (s, e)
    Moves rest others released s e left.1 left.2 := by
  induction released generalizing s e with
  | nil => exact .refl b others
  | cons h later ih =>
    have first := moves_release b others h
    exact first.trans (ih first.beside)

/-- Releasing everything leaves a store that holds nothing. -/
theorem moves_releaseAll (b : s.Beside rest e) (others : List SynthHandle) :
    Moves rest others s.handles s e (s.releaseAll e).1 (s.releaseAll e).2 ∧
      (s.releaseAll e).1.handles = [] := by
  refine ⟨moves_foldl_release b others s.handles, ?_⟩
  rw [fst_releaseAll]
  rfl

end Store

end SampleBank
