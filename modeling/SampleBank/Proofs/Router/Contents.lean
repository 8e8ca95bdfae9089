import SampleBank.Proofs.SortedMap
import SampleBank.Router
import Mathlib.Data.List.Basic

/-!
# What a key map holds

The contents of a `Router` are `Router.bound p`, what is bound in each program. Every operation
is described by them: `bound_insert` puts a range behind the others of its program, `bound_remove`
takes a sample out of one program and `bound_unbindAll` out of all.

`Router.InOrder` is the invariant that ties the contents to their representation: no program is
kept without ranges, within a program the numbers of the ranges ascend, and all of them lie below
the number that is given out next. Adding and removing keep it, so the range with the highest
number is always the last one in its program (`latest?_eq_getLast?`), and a range that is added
changes the lookups of its own keys and no others (`resolve_insert`).
-/

namespace SampleBank

namespace Router

open Numbered (number)

variable {r : Router} {p q : Program} {sample : SampleHandle} {range : KeyRange}

/-! ### Contents after each operation -/

/-- A program that is listed has the ranges that are listed for it. -/
theorem bound_eq_of_find?_eq_some {bound : List BoundRange}
    (h : r.programs.find? p = some bound) : r.bound p = bound := by
  rw [Router.bound, h, Option.getD_some]

/-- A program that is not listed has no ranges. -/
theorem bound_eq_nil_of_find?_eq_none (h : r.programs.find? p = none) : r.bound p = [] := by
  rw [Router.bound, h, Option.getD_none]

@[simp] theorem bound_empty (policy : OverlapPolicy) : (empty policy).bound p = [] := rfl

@[simp] theorem bound_clear : r.clear.bound p = [] := rfl

/-- A range is inserted behind the others of its program, with the next number. -/
theorem bound_insert :
    (r.insert p range).bound q =
      if q = p then r.bound p ++ [⟨range, r.nextOrder⟩] else r.bound q := by
  rw [Router.bound, insert, SortedMap.find?_insert_eq_ite]
  split
  · rfl
  · rfl

/-- Without the numbers, a range is inserted at the end. -/
theorem ranges_insert :
    (r.insert p range).ranges q = if q = p then r.ranges p ++ [range] else r.ranges q := by
  rw [ranges, bound_insert]
  split
  · rw [List.map_append, List.map_singleton, ranges]
  · rfl

/-- Whether a program is dropped or not, the ranges of the sample are gone from it. -/
theorem without?_getD (bound : List BoundRange) :
    (without? sample bound).getD [] = bound.filter (·.range.sample ≠ sample) := by
  rw [without?]
  split
  · rename_i h
    rw [Option.getD_none, List.isEmpty_iff.1 h]
  · rfl

/-- Removing a sample from a program drops the program if nothing else is bound there. -/
theorem find?_remove :
    (r.remove p sample).programs.find? q =
      if q = p then without? sample (r.bound p) else r.programs.find? q := by
  rw [remove]
  cases hw : without? sample (r.bound p) with
  | none => exact SortedMap.find?_erase_eq_ite ..
  | some left => exact SortedMap.find?_insert_eq_ite ..

/-- Removing a sample from a program leaves the other programs. -/
theorem bound_remove :
    (r.remove p sample).bound q =
      if q = p then (r.bound p).filter (·.range.sample ≠ sample) else r.bound q := by
  rw [Router.bound, find?_remove]
  split
  · exact without?_getD _
  · rfl

/-- Removing a sample from some programs leaves the others as they are. -/
theorem bound_foldl_remove (programs : List Program) :
    (programs.foldl (fun r p => r.remove p sample) r).bound q =
      if q ∈ programs then (r.bound q).filter (·.range.sample ≠ sample) else r.bound q := by
  induction programs generalizing r with
  | nil => rfl
  | cons p rest ih =>
    rw [List.foldl_cons, ih, bound_remove]
    by_cases hq : q = p
    · subst hq
      simp
    · simp [hq]

/-- A sample is bound in a program when one of the ranges there is its own. -/
theorem isBound_iff : r.isBound p sample = true ↔ ∃ b ∈ r.bound p, b.range.sample = sample := by
  simp [isBound, ranges]

/-- The programs that are collected for a sample are those in which it is bound. -/
theorem mem_boundIn : p ∈ r.boundIn sample ↔ r.isBound p sample = true := by
  simp only [boundIn, programsOf, List.mem_mergeSort, List.mem_map, List.mem_filter,
    List.any_eq_true, decide_eq_true_eq, isBound_iff]
  constructor
  · rintro ⟨⟨p, bound⟩, ⟨hmem, b, hb, hs⟩, rfl⟩
    rw [bound_eq_of_find?_eq_some (SortedMap.mem_toList_iff.1 hmem)]
    exact ⟨b, hb, hs⟩
  · rintro ⟨b, hb, hs⟩
    cases hf : r.programs.find? p with
    | none => simp [bound_eq_nil_of_find?_eq_none hf] at hb
    | some bound =>
      rw [bound_eq_of_find?_eq_some hf] at hb
      exact ⟨(p, bound), ⟨SortedMap.mem_toList_iff.2 hf, b, hb, hs⟩, rfl⟩

/-- Removing a sample everywhere takes its ranges from each program. -/
theorem bound_unbindAll :
    (r.unbindAll sample).bound q = (r.bound q).filter (·.range.sample ≠ sample) := by
  rw [unbindAll, bound_foldl_remove]
  split
  · rfl
  · rename_i h
    rw [mem_boundIn, isBound_iff] at h
    -- a program that does not have the sample is not visited, and has nothing to lose
    refine (List.filter_eq_self.2 fun b hb => ?_).symm
    exact decide_eq_true fun hs => h ⟨b, hb, hs⟩

theorem map_range_filter (bound : List BoundRange) (keep : KeyRange → Bool) :
    (bound.filter fun b => keep b.range).map (·.range) = (bound.map (·.range)).filter keep := by
  rw [List.filter_map]
  rfl

/-- The ranges of a program that are left keep their order. -/
theorem ranges_remove :
    (r.remove p sample).ranges q =
      if q = p then (r.ranges p).filter (·.sample ≠ sample) else r.ranges q := by
  rw [ranges, bound_remove]
  split
  · exact map_range_filter _ (·.sample ≠ sample)
  · rfl

/-- The ranges that are left in each program keep their order. -/
theorem ranges_unbindAll :
    (r.unbindAll sample).ranges q = (r.ranges q).filter (·.sample ≠ sample) := by
  rw [ranges, bound_unbindAll]
  exact map_range_filter _ (·.sample ≠ sample)

/-- What is bound can be unbound, and then exactly the ranges of the sample go. -/
theorem unbind?_eq_some (h : r.isBound p sample = true) :
    r.unbind? p sample =
      some ((r.ranges p).filter (·.sample = sample), r.remove p sample) := by
  rw [unbind?, if_neg]
  rw [isBound, List.any_eq_true] at h
  obtain ⟨range, hmem, hs⟩ := h
  rw [List.isEmpty_iff]
  exact List.ne_nil_of_mem (List.mem_filter.2 ⟨hmem, hs⟩)

/-! ### What the check lets through -/

/-- Where overlaps are refused, the check names the first range that is in the way. -/
theorem check_of_valid (hv : p.Valid) (hr : r.policy = .reject) :
    r.check p range = match (r.ranges p).find? (·.overlaps range) with
      | some bound => .error (.overlap range p bound)
      | none => .ok () := by
  cases hf : (r.ranges p).find? (·.overlaps range) with
  | none => simp only [check, checkProgram_eq_ok_iff.2 hv, hr, hf]
  | some bound => simp only [check, checkProgram_eq_ok_iff.2 hv, hr, hf]

/-- A range passes the check if its program is valid and, where overlaps are refused, nothing is in
the way. -/
theorem check_eq_ok_iff :
    r.check p range = .ok () ↔
      p.Valid ∧ (r.policy = .reject → ∀ bound ∈ r.ranges p, bound.overlaps range = false) := by
  by_cases hv : p.Valid
  · cases hr : r.policy with
    | lastWins =>
      rw [check, checkProgram_eq_ok_iff.2 hv]
      simp [hr, hv]
    | reject =>
      rw [check_of_valid hv hr]
      cases hf : (r.ranges p).find? (·.overlaps range) with
      | none => simpa [hv] using hf
      | some bound =>
        have overlaps := List.find?_some hf
        have bound_mem := List.mem_of_find?_eq_some hf
        refine ⟨nofun, fun ⟨_, apart⟩ => ?_⟩
        rw [apart rfl bound bound_mem] at overlaps
        cases overlaps
  · refine ⟨fun h => ?_, fun h => absurd h.1 hv⟩
    rw [check] at h
    cases hc : checkProgram p with
    | error e =>
      rw [hc] at h
      cases h
    | ok _ => exact absurd (checkProgram_eq_ok_iff.1 hc) hv

/-- Under `reject` a range of a valid program is refused for an overlap exactly when one bound there
shares a key with it. -/
theorem exists_check_eq_overlap_iff (hv : p.Valid) (hr : r.policy = .reject) :
    (∃ bound, r.check p range = .error (.overlap range p bound)) ↔
      ∃ bound ∈ r.ranges p, bound.overlaps range = true := by
  rw [check_of_valid hv hr]
  cases hf : (r.ranges p).find? (·.overlaps range) with
  | none =>
    rw [List.find?_eq_none] at hf
    exact ⟨nofun, fun ⟨bound, hmem, overlaps⟩ => absurd overlaps (hf bound hmem)⟩
  | some bound =>
    have overlaps := List.find?_some hf
    exact ⟨fun _ => ⟨bound, List.mem_of_find?_eq_some hf, overlaps⟩, fun _ => ⟨bound, rfl⟩⟩

/-- A binding succeeds with the range of its keys, provided they form one, and the check lets that
range through. -/
theorem exists_bind_eq_ok_iff {lokey hikey : UInt8} :
    (∃ r', r.bind p lokey hikey sample = .ok (range, r')) ↔
      KeyRange.make? lokey hikey sample = .ok range ∧ r.check p range = .ok () := by
  rw [bind]
  cases hm : KeyRange.make? lokey hikey sample with
  | error e => exact ⟨fun ⟨_, h⟩ => absurd h nofun, fun h => absurd h.1 nofun⟩
  | ok made =>
    simp only [Except.ok.injEq]
    constructor
    · rintro ⟨r', h⟩
      split at h
      · cases h
      · rename_i passed
        obtain ⟨rfl, -⟩ := Prod.mk.inj (Except.ok.inj h)
        exact ⟨rfl, passed⟩
    · rintro ⟨rfl, passed⟩
      exact ⟨r.insert p made, by rw [passed]⟩

/-! ### The invariant -/

/-- A key map keeps no program without ranges, and numbers its ranges in the order in which they
were bound. -/
structure InOrder (r : Router) : Prop where
  ne_nil : ∀ p, r.programs.find? p ≠ some []
  ascending : ∀ p, (r.bound p).Pairwise (·.order < ·.order)
  fresh : ∀ p, ∀ b ∈ r.bound p, b.order < r.nextOrder

namespace InOrder

theorem empty (policy : OverlapPolicy) : (empty policy).InOrder where
  ne_nil p := by
    rw [Router.empty, SortedMap.find?_empty]
    exact nofun
  ascending p := List.Pairwise.nil
  fresh p b hb := by simp at hb

/-- A new range has a higher number than all that are bound. -/
theorem insert (h : r.InOrder) (p : Program) (range : KeyRange) : (r.insert p range).InOrder where
  ne_nil q := by
    rw [Router.insert, SortedMap.find?_insert_eq_ite]
    split
    · simp
    · exact h.ne_nil q
  ascending q := by
    rw [bound_insert]
    split
    · refine List.pairwise_append.2 ⟨h.ascending p, List.pairwise_singleton .., ?_⟩
      rintro b hb c hc
      rw [List.mem_singleton.1 hc]
      exact h.fresh p b hb
    · exact h.ascending q
  fresh q b hb := by
    change b.order < r.nextOrder + 1
    rw [bound_insert] at hb
    split at hb
    · rcases List.mem_append.1 hb with hb | hb
      · exact Nat.lt_succ_of_lt (h.fresh p b hb)
      · rw [List.mem_singleton.1 hb]
        exact Nat.lt_succ_self _
    · exact Nat.lt_succ_of_lt (h.fresh q b hb)

/-- What is left of a program is in order, and a program with nothing left is dropped. -/
theorem remove (h : r.InOrder) (p : Program) (sample : SampleHandle) :
    (r.remove p sample).InOrder where
  ne_nil q := by
    rw [find?_remove]
    split
    · rw [without?]
      split
      · exact nofun
      -- what is kept has a range left, or the program would have been dropped
      · rename_i hne
        rw [List.isEmpty_iff] at hne
        simpa using hne
    · exact h.ne_nil q
  ascending q := by
    rw [bound_remove]
    split
    · exact (h.ascending p).filter _
    · exact h.ascending q
  fresh q b hb := by
    change b.order < r.nextOrder
    rw [bound_remove] at hb
    split at hb
    · exact h.fresh p b (List.mem_of_mem_filter hb)
    · exact h.fresh q b hb

/-- Removing a sample everywhere keeps the order of numbers. -/
theorem unbindAll (h : r.InOrder) (sample : SampleHandle) : (r.unbindAll sample).InOrder := by
  rw [Router.unbindAll]
  generalize r.boundIn sample = programs
  induction programs generalizing r with
  | nil => exact h
  | cons p rest ih => exact ih (h.remove p sample)

theorem clear (r : Router) : r.clear.InOrder where
  ne_nil p := by
    rw [Router.clear, SortedMap.find?_empty]
    exact nofun
  ascending p := List.Pairwise.nil
  fresh p b hb := by simp at hb

/-- What is kept for a program is what is bound there, if anything is. -/
theorem find?_eq (h : r.InOrder) (p : Program) :
    r.programs.find? p = if (r.bound p).isEmpty then none else some (r.bound p) := by
  cases kept : r.programs.find? p with
  | none =>
    rw [bound_eq_nil_of_find?_eq_none kept]
    rfl
  | some bound =>
    rw [bound_eq_of_find?_eq_some kept, if_neg]
    intro none
    exact h.ne_nil p (kept.trans (congrArg some (List.isEmpty_iff.1 none)))

/-- Each program is left with its other ranges, or dropped if it has none. -/
theorem find?_unbindAll (h : r.InOrder) (sample : SampleHandle) (p : Program) :
    (r.unbindAll sample).programs.find? p = (r.programs.find? p).bind (without? sample) := by
  rw [(h.unbindAll sample).find?_eq, h.find?_eq, bound_unbindAll]
  split
  · rename_i none_left
    split
    · rfl
    · rw [Option.bind_some, without?, if_pos none_left]
  · rename_i some_left
    have some_bound : ¬(r.bound p).isEmpty = true := by
      intro none
      rw [List.isEmpty_iff.1 none] at some_left
      exact some_left rfl
    rw [if_neg some_bound, Option.bind_some, without?, if_neg some_left]

end InOrder

/-! ### The latest range -/

/-- Where the numbers ascend, the highest one stands last. -/
theorem latest?_eq_getLast? {bound : List BoundRange}
    (h : bound.Pairwise (·.order < ·.order)) : latest? bound = bound.getLast? := by
  induction bound with
  | nil => rfl
  | cons b rest ih =>
    have ⟨hd_lt, tl_asc⟩ := List.pairwise_cons.1 h
    rw [latest?, ih tl_asc]
    cases hl : rest.getLast? with
    | none => rw [List.getLast?_eq_none_iff.1 hl, List.getLast?_singleton]
    | some later =>
      have hlt : b.order < later.order := hd_lt later (List.mem_of_getLast? hl)
      rw [List.getLast?_cons, hl]
      exact if_pos (Nat.le_of_lt hlt)

/-- A lookup answers with the last range of the program that covers the key. -/
theorem resolve_eq (h : r.InOrder) (key : UInt8) :
    r.resolve p key = ((r.ranges p).filter (·.covers key)).getLast?.map (·.sample) := by
  rw [resolve, latest?_eq_getLast? ((h.ascending p).filter _), ranges,
    ← map_range_filter _ (·.covers key), List.getLast?_map, Option.map_map]
  rfl

/-- A lookup hits when some range covers the key, whatever the order. -/
theorem isSome_resolve_iff (h : r.InOrder) (key : UInt8) :
    (r.resolve p key).isSome = true ↔ ∃ range ∈ r.ranges p, range.covers key = true := by
  rw [resolve_eq h, Option.isSome_map, List.getLast?_isSome, Ne, List.filter_eq_nil_iff]
  simp

/-- A range that joins wins on its keys against all that were there before, and every other key is
left as it was. -/
theorem resolve_insert (h : r.InOrder) (key : UInt8) :
    (r.insert p range).resolve q key =
      if q = p ∧ range.covers key = true then some range.sample else r.resolve q key := by
  rw [resolve_eq (h.insert p range), ranges_insert, resolve_eq h]
  by_cases hq : q = p
  · subst hq
    rw [if_pos rfl, List.filter_append]
    by_cases covered : range.covers key = true
    · simp [covered]
    · simp [covered]
  · simp [hq]

/-- Under `reject` a range that passes the check asks for free keys only. -/
theorem resolve_eq_none_of_check (h : r.InOrder) (reject : r.policy = .reject)
    (passed : r.check p range = .ok ()) {key : UInt8} (covered : range.covers key = true) :
    r.resolve p key = none := by
  have apart := (check_eq_ok_iff.1 passed).2 reject
  rw [← Option.not_isSome_iff_eq_none, isSome_resolve_iff h]
  rintro ⟨bound, hb, both⟩
  have overlaps := KeyRange.overlaps_iff_exists_covers.2 ⟨key, both, covered⟩
  rw [apart bound hb] at overlaps
  cases overlaps

end Router

end SampleBank
