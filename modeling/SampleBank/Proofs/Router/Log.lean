import SampleBank.Proofs.Router.Contents

/-!
# Key maps as logs of bindings

A `BindLog` is the plain list of what was bound and not removed since, with its program, in bind
order. `Router.run` runs commands on a key map and keeps the log beside it. The main statement is
`run_answers`: after any commands the key map answers every question as the log does. Ranges of a
program are the part of the log that belongs to it, a lookup takes the last entry that covers the
key, the listing of all bindings is the stable sort of the log, and a removal takes out the
entries of its sample. None of the answers depends on the order in which programs are visited.

The step behind it is `Follows.step`, which keeps two facts: the key map numbers its ranges in
order (`Router.InOrder`), and each program holds its part of the log.
-/

namespace SampleBank

open Numbered (number)

/-! ### Stable sorting by a key -/

section StableSort

variable {α : Type} (key : α → Nat)

private theorem key_trans (a b c : α) (hab : decide (key a ≤ key b) = true)
    (hbc : decide (key b ≤ key c) = true) : decide (key a ≤ key c) = true :=
  decide_eq_true (Nat.le_trans (of_decide_eq_true hab) (of_decide_eq_true hbc))

private theorem key_total (a b : α) :
    (decide (key a ≤ key b) || decide (key b ≤ key a)) = true := by
  simpa using Nat.le_total (key a) (key b)

/-- Sorting puts the keys in order. -/
theorem pairwise_mergeSort_key (l : List α) :
    (l.mergeSort (key · ≤ key ·)).Pairwise (key · ≤ key ·) := by
  simpa using List.pairwise_mergeSort (key_trans key) (key_total key) l

/-- Sorting leaves the entries with one key in their order. -/
theorem filter_mergeSort_key (l : List α) (k : Nat) :
    (l.mergeSort (key · ≤ key ·)).filter (key · = k) = l.filter (key · = k) := by
  have alike : (l.filter (key · = k)).Pairwise fun a b => decide (key a ≤ key b) = true := by
    refine List.pairwise_of_forall_mem_list fun a ha b hb => ?_
    have hka := (List.mem_filter.1 ha).2
    have hkb := (List.mem_filter.1 hb).2
    simp only [decide_eq_true_eq] at hka hkb ⊢
    omega
  have kept : (l.filter (key · = k)).Sublist (l.mergeSort (key · ≤ key ·)) :=
    List.sublist_mergeSort (key_trans key) (key_total key) alike List.filter_sublist
  have class_kept := kept.filter (key · = k)
  simp only [List.filter_filter, Bool.and_self] at class_kept
  exact (class_kept.eq_of_length ((List.mergeSort_perm l _).filter _).length_eq.symm).symm

/-- If two lists have the same entries for every key, the first entry of one occurs in the other and
cannot come before the first entry there. -/
private theorem key_le_of_filter_eq {a b : α} {tl tl' : List α} (b_le : ∀ c ∈ tl', key b ≤ key c)
    (h : ∀ k, (a :: tl).filter (key · = k) = (b :: tl').filter (key · = k)) : key b ≤ key a := by
  have ha : a ∈ (b :: tl').filter (key · = key a) := by
    rw [← h (key a)]
    exact List.mem_filter.2 ⟨List.mem_cons_self, decide_eq_true rfl⟩
  rcases List.mem_cons.1 (List.mem_of_mem_filter ha) with rfl | hmem
  · exact Nat.le_refl _
  · exact b_le a hmem

/-- Sorted lists in which every key has the same entries in the same order are equal. -/
theorem eq_of_pairwise_key {l l' : List α} (hl : l.Pairwise (key · ≤ key ·))
    (hl' : l'.Pairwise (key · ≤ key ·))
    (h : ∀ k, l.filter (key · = k) = l'.filter (key · = k)) : l = l' := by
  induction l generalizing l' with
  | nil =>
    cases l' with
    | nil => rfl
    | cons b rest =>
      have nothing := h (key b)
      simp at nothing
  | cons a tl ih =>
    have ⟨a_le, tl_sorted⟩ := List.pairwise_cons.1 hl
    cases l' with
    | nil =>
      have nothing := h (key a)
      simp at nothing
    | cons b tl' =>
      have ⟨b_le, tl_sorted'⟩ := List.pairwise_cons.1 hl'
      have keys_eq : key a = key b :=
        Nat.le_antisymm (key_le_of_filter_eq key a_le fun k => (h k).symm)
          (key_le_of_filter_eq key b_le h)
      -- both heads come first among the entries with their key
      have heads : a = b := by
        have same := h (key a)
        simp only [List.filter_cons, keys_eq, decide_true, ↓reduceIte, List.cons.injEq] at same
        exact same.1
      subst heads
      congr 1
      refine ih tl_sorted tl_sorted' fun k => ?_
      have same := h k
      rw [List.filter_cons, List.filter_cons] at same
      split at same
      · exact (List.cons.inj same).2
      · exact same

/-- A stable sort depends on the order within each key only. -/
theorem mergeSort_key_congr {l l' : List α}
    (h : ∀ k, l.filter (key · = k) = l'.filter (key · = k)) :
    l.mergeSort (key · ≤ key ·) = l'.mergeSort (key · ≤ key ·) := by
  refine eq_of_pairwise_key key (pairwise_mergeSort_key key l) (pairwise_mergeSort_key key l')
    fun k => ?_
  rw [filter_mergeSort_key, filter_mergeSort_key, h k]

end StableSort

namespace Router

variable {r : Router} {p q : Program} {sample : SampleHandle} {range : KeyRange}

/-! ### The order of bindings -/

/-- Whether a binding comes no later than another by bank, preset, low key and high key. -/
def NoLater (a b : Program × KeyRange) : Prop :=
  a.1.bank < b.1.bank ∨ a.1.bank = b.1.bank ∧
    (a.1.preset < b.1.preset ∨ a.1.preset = b.1.preset ∧
      (a.2.lokey < b.2.lokey ∨ a.2.lokey = b.2.lokey ∧ a.2.hikey ≤ b.2.hikey))

instance (a b : Program × KeyRange) : Decidable (NoLater a b) :=
  inferInstanceAs (Decidable (_ ∨ _))

/-- The rank compares bank, preset, low key and high key, one after the other. -/
theorem rank_le_rank_iff {a b : Program × KeyRange} : rank a ≤ rank b ↔ NoLater a b := by
  obtain ⟨⟨bank, preset⟩, ⟨lokey, hikey, s, _, _⟩⟩ := a
  obtain ⟨⟨bank', preset'⟩, ⟨lokey', hikey', s', _, _⟩⟩ := b
  have := preset.toNat_lt
  have := preset'.toNat_lt
  have := lokey.toNat_lt
  have := lokey'.toNat_lt
  have := hikey.toNat_lt
  have := hikey'.toNat_lt
  simp only [rank, NoLater, Program.number_eq, UInt16.lt_iff_toNat_lt, UInt8.lt_iff_toNat_lt,
    UInt8.le_iff_toNat_le, ← UInt16.toNat_inj, ← UInt8.toNat_inj]
  omega

/-- A number with two digits to the base 256 behind it determines what stands before them. -/
private theorem eq_of_two_digits_eq {m n c c' d d' : Nat} (hc : c < 256) (hc' : c' < 256)
    (hd : d < 256) (hd' : d' < 256) (h : (m * 256 + c) * 256 + d = (n * 256 + c') * 256 + d') :
    m = n := by
  omega

/-- Bindings with one place in the order belong to one program. -/
theorem program_eq_of_rank_eq {a b : Program × KeyRange} (h : rank a = rank b) : a.1 = b.1 :=
  Numbered.number_injective <| eq_of_two_digits_eq a.2.lokey.toNat_lt b.2.lokey.toNat_lt
    a.2.hikey.toNat_lt b.2.hikey.toNat_lt h

/-- Bindings are listed by bank, preset, low key and high key. -/
theorem arrange_eq (l : List (Program × KeyRange)) : arrange l = l.mergeSort (NoLater · ·) := by
  rw [arrange]
  congr 1
  funext a b
  exact decide_eq_decide.2 rank_le_rank_iff

/-- Arranged lists agree as soon as every program has the same entries in the same order. -/
theorem arrange_congr {l l' : List (Program × KeyRange)}
    (h : ∀ p, l.filter (·.1 = p) = l'.filter (·.1 = p)) : arrange l = arrange l' := by
  refine mergeSort_key_congr rank fun k => ?_
  -- the rank of an entry tells its program, so entries of one rank come from one program
  by_cases hk : ∃ e : Program × KeyRange, rank e = k
  · obtain ⟨e, rfl⟩ := hk
    have within (l : List (Program × KeyRange)) :
        l.filter (rank · = rank e) = (l.filter (·.1 = e.1)).filter (rank · = rank e) := by
      rw [List.filter_filter]
      refine List.filter_congr fun a _ => ?_
      by_cases ha : rank a = rank e
      · simp [ha, program_eq_of_rank_eq ha]
      · simp [ha]
    rw [within l, within l', h]
  · have nothing (l : List (Program × KeyRange)) : l.filter (rank · = k) = [] :=
      List.filter_eq_nil_iff.2 fun a _ ha => hk ⟨a, of_decide_eq_true ha⟩
    rw [nothing l, nothing l']

/-! ### Visiting the programs in any order -/

/-- A listing has entries of visited programs only. -/
theorem mem_visited_of_mem_listing {visited : List (Program × List BoundRange)}
    {e : Program × KeyRange} (he : e ∈ listing visited) : e.1 ∈ visited.map (·.1) := by
  obtain ⟨⟨p, bound⟩, hmem, he⟩ := List.mem_flatMap.1 he
  obtain ⟨b, -, rfl⟩ := List.mem_map.1 he
  exact List.mem_map.2 ⟨(p, bound), hmem, rfl⟩

/-- What is listed for one program belongs to it and to no other. -/
theorem filter_listed (bound : List BoundRange) (p q : Program) :
    (bound.map fun b => (q, b.range)).filter (·.1 = p) =
      if q = p then bound.map fun b => (q, b.range) else [] := by
  split
  · rename_i hq
    rw [List.filter_eq_self]
    intro e he
    obtain ⟨b, -, rfl⟩ := List.mem_map.1 he
    exact decide_eq_true hq
  · rename_i hq
    rw [List.filter_eq_nil_iff]
    intro e he
    obtain ⟨b, -, rfl⟩ := List.mem_map.1 he
    simpa using hq

/-- The entries of a program in a listing are what the program holds. -/
theorem filter_listing {visited : List (Program × List BoundRange)}
    (h : visited.Perm r.programs.toList) (p : Program) :
    (listing visited).filter (·.1 = p) = (r.ranges p).map (p, ·) := by
  have nodup : (visited.map Prod.fst).Nodup :=
    (h.map Prod.fst).nodup_iff.2 (SortedMap.nodup_keys r.programs)
  have held : ∀ e ∈ visited, r.bound e.1 = e.2 := fun e he =>
    bound_eq_of_find?_eq_some (SortedMap.mem_toList_iff.1 (h.mem_iff.1 he))
  have absent : p ∉ visited.map (·.1) → r.bound p = [] := by
    intro hp
    refine bound_eq_nil_of_find?_eq_none (Option.eq_none_iff_forall_ne_some.2 fun bound hb => hp ?_)
    exact List.mem_map.2 ⟨(p, bound), h.mem_iff.2 (SortedMap.mem_toList_iff.2 hb), rfl⟩
  clear h
  rw [ranges]
  -- every program is visited at most once, so its entries stand together
  induction visited with
  | nil =>
    rw [absent (by simp)]
    rfl
  | cons e rest ih =>
    obtain ⟨q, bound⟩ := e
    rw [List.map_cons, List.nodup_cons] at nodup
    rw [listing, List.flatMap_cons, ← listing, List.filter_append, filter_listed]
    by_cases hq : q = p
    · subst hq
      have none_left : (listing rest).filter (·.1 = q) = [] := by
        rw [List.filter_eq_nil_iff]
        intro e he eq
        obtain rfl : e.1 = q := of_decide_eq_true eq
        exact nodup.1 (mem_visited_of_mem_listing he)
      rw [if_pos rfl, none_left, List.append_nil, held (q, bound) List.mem_cons_self, List.map_map]
      rfl
    · have rest_held : ∀ e ∈ rest, r.bound e.1 = e.2 := fun e he =>
        held e (List.mem_cons_of_mem _ he)
      rw [if_neg hq, List.nil_append]
      refine ih nodup.2 rest_held fun hp => absent fun hmem => ?_
      rcases List.mem_cons.1 hmem with rfl | hmem
      · exact hq rfl
      · exact hp hmem

/-- A listing has as many entries as there are ranges in the programs. -/
theorem length_listing (visited : List (Program × List BoundRange)) :
    (listing visited).length = count visited := by
  rw [listing, List.length_flatMap]
  simp only [List.length_map]
  rfl

end Router

/-! ### The log -/

/-- What was bound and not removed since, with its program, in bind order. -/
abbrev BindLog := List (Program × KeyRange)

/-- The ranges that a log has for a program, in bind order. -/
def BindLog.rangesOf (log : BindLog) (p : Program) : List KeyRange :=
  (log.filter (·.1 = p)).map (·.2)

namespace BindLog

variable {log : BindLog} {p q : Program} {sample : SampleHandle} {range : KeyRange}

/-- A range is among those of its own program. -/
theorem mem_rangesOf : range ∈ log.rangesOf p ↔ (p, range) ∈ log := by
  simp [rangesOf]

/-- What is bound last comes last in its program, and the other programs stay. -/
theorem rangesOf_append :
    BindLog.rangesOf (log ++ [(p, range)]) q =
      if q = p then log.rangesOf p ++ [range] else log.rangesOf q := by
  rw [rangesOf, List.filter_append, List.map_append]
  split
  · rename_i hq
    subst hq
    simp [rangesOf]
  · rename_i hq
    simp [rangesOf, Ne.symm hq]

/-- Selecting ranges of a program is selecting entries of the log. -/
theorem filter_rangesOf (keep : KeyRange → Bool) :
    (log.rangesOf p).filter keep =
      (log.filter fun e => e.1 = p ∧ keep e.2 = true).map (·.2) := by
  rw [rangesOf, List.filter_map, List.filter_filter]
  congr 1
  refine List.filter_congr fun e _ => ?_
  simp [Bool.and_comm]

/-- Taking a sample out of the log takes it out of every program. -/
theorem rangesOf_filter_ne :
    BindLog.rangesOf (log.filter (·.2.sample ≠ sample)) q =
      (log.rangesOf q).filter (·.sample ≠ sample) := by
  rw [filter_rangesOf, rangesOf, List.filter_filter]
  congr 1
  refine List.filter_congr fun e _ => ?_
  simp

/-- Taking a sample out for one program leaves all others as they are. -/
theorem rangesOf_filter_not_and :
    BindLog.rangesOf (log.filter fun e => ¬(e.1 = p ∧ e.2.sample = sample)) q =
      if q = p then (log.rangesOf p).filter (·.sample ≠ sample) else log.rangesOf q := by
  split
  · rename_i hq
    subst hq
    rw [filter_rangesOf, rangesOf, List.filter_filter]
    congr 1
    refine List.filter_congr fun e _ => ?_
    by_cases he : e.1 = q <;> simp [he]
  · rename_i hq
    rw [rangesOf, rangesOf, List.filter_filter]
    congr 1
    refine List.filter_congr fun e _ => ?_
    by_cases he : e.1 = q
    · simp [he, hq]
    · simp [he]

end BindLog

namespace Router

variable {r : Router} {log : BindLog} {p q : Program} {sample : SampleHandle} {range : KeyRange}

/-- What can be asked of a key map. -/
inductive Request
  | bind (p : Program) (lokey hikey : UInt8) (sample : SampleHandle)
  | check (p : Program) (range : KeyRange)
  | insert (p : Program) (range : KeyRange)
  | unbind (p : Program) (sample : SampleHandle)
  | unbindAll (sample : SampleHandle)
  | clear

/-- The key map after a request. -/
def serve (r : Router) : Request → Router
  | .bind p lokey hikey sample =>
    match r.bind p lokey hikey sample with
    | .ok (_, r) => r
    | .error _ => r
  | .check _ _ => r
  | .insert p range => r.insert p range
  | .unbind p sample =>
    match r.unbind? p sample with
    | some (_, r) => r
    | none => r
  | .unbindAll sample => r.unbindAll sample
  | .clear => r.clear

/-- The log after a request: what the key map bound is appended, and what is removed is filtered
out. -/
def record (r : Router) (log : BindLog) : Request → BindLog
  | .bind p lokey hikey sample =>
    match r.bind p lokey hikey sample with
    | .ok (range, _) => log ++ [(p, range)]
    | .error _ => log
  | .check _ _ => log
  | .insert p range => log ++ [(p, range)]
  | .unbind p sample => log.filter fun e => ¬(e.1 = p ∧ e.2.sample = sample)
  | .unbindAll sample => log.filter (·.2.sample ≠ sample)
  | .clear => []

/-- Serves requests one after the other and keeps the log. -/
def run (start : Router × BindLog) (requests : List Request) : Router × BindLog :=
  requests.foldl (fun (r, log) request => (r.serve request, r.record log request)) start

/-! ### One request -/

/-- A key map that is in order and holds in each program the part of the log that belongs to it. -/
structure Follows (r : Router) (log : BindLog) : Prop where
  inOrder : r.InOrder
  ranges_eq : ∀ p, r.ranges p = log.rangesOf p

namespace Follows

/-- An empty key map follows the empty log. -/
theorem empty (policy : OverlapPolicy) : (Router.empty policy).Follows [] where
  inOrder := .empty policy
  ranges_eq _ := rfl

/-- A range that is inserted goes to the end of the log. -/
theorem insert (h : r.Follows log) (p : Program) (range : KeyRange) :
    (r.insert p range).Follows (log ++ [(p, range)]) where
  inOrder := h.inOrder.insert p range
  ranges_eq q := by rw [ranges_insert, BindLog.rangesOf_append, h.ranges_eq, h.ranges_eq]

/-- A range that is bound goes to the end of the log, and one that is refused goes nowhere. -/
theorem bind (h : r.Follows log) (p : Program) (lokey hikey : UInt8) (sample : SampleHandle) :
    (r.serve (.bind p lokey hikey sample)).Follows (r.record log (.bind p lokey hikey sample)) := by
  rw [serve, record, Router.bind]
  cases KeyRange.make? lokey hikey sample with
  | error e => exact h
  | ok range =>
    simp only
    cases r.check p range with
    | error e => exact h
    | ok _ => exact h.insert p range

/-- Unbinding a sample takes its entries for that program out of the log. -/
theorem unbind (h : r.Follows log) (p : Program) (sample : SampleHandle) :
    (r.serve (.unbind p sample)).Follows (r.record log (.unbind p sample)) := by
  have removed : (r.remove p sample).Follows (r.record log (.unbind p sample)) :=
    { inOrder := h.inOrder.remove p sample
      ranges_eq := fun q => by
        rw [ranges_remove, record, BindLog.rangesOf_filter_not_and, h.ranges_eq, h.ranges_eq] }
  rw [serve, unbind?]
  split
  · rename_i r' hr
    split at hr
    · cases hr
    · cases hr
      exact removed
  · rename_i hr
    split at hr
    -- nothing was bound, so neither the key map nor the log has anything to remove
    · rename_i none_bound
      refine ⟨h.inOrder, fun q => ?_⟩
      rw [← removed.ranges_eq, ranges_remove]
      split
      · rename_i hq
        subst hq
        rw [List.isEmpty_iff, List.filter_eq_nil_iff] at none_bound
        refine (List.filter_eq_self.2 fun range hmem => ?_).symm
        have : range.sample ≠ sample := fun hs => none_bound range hmem (decide_eq_true hs)
        simpa using this
      · rfl
    · cases hr

/-- Every request keeps a key map and its log together. -/
theorem step (h : r.Follows log) (request : Request) :
    (r.serve request).Follows (r.record log request) := by
  cases request with
  | bind p lokey hikey sample => exact h.bind p lokey hikey sample
  | check p range => exact h
  | insert p range => exact h.insert p range
  | unbind p sample => exact h.unbind p sample
  | unbindAll sample =>
    refine ⟨h.inOrder.unbindAll sample, fun q => ?_⟩
    rw [serve, ranges_unbindAll, record, BindLog.rangesOf_filter_ne, h.ranges_eq]
  | clear => exact ⟨.clear r, fun q => rfl⟩

/-- However many requests there are, the log goes with them. -/
theorem run (h : r.Follows log) (requests : List Request) :
    (Router.run (r, log) requests).1.Follows (Router.run (r, log) requests).2 := by
  induction requests generalizing r log with
  | nil => exact h
  | cons request rest ih => exact ih (h.step request)

end Follows

/-! ### What the log says of the key map -/

theorem policy_remove : (r.remove p sample).policy = r.policy := rfl

/-- Removing a sample everywhere does not change what is done about overlaps. -/
theorem policy_unbindAll : (r.unbindAll sample).policy = r.policy := by
  rw [unbindAll]
  generalize r.boundIn sample = programs
  induction programs generalizing r with
  | nil => rfl
  | cons p rest ih => exact (ih (r := r.remove p sample)).trans policy_remove

/-- Removing a sample everywhere does not give numbers back. -/
theorem nextOrder_unbindAll : (r.unbindAll sample).nextOrder = r.nextOrder := by
  rw [unbindAll]
  generalize r.boundIn sample = programs
  induction programs generalizing r with
  | nil => rfl
  | cons p rest ih => exact ih (r := r.remove p sample)

/-- The policy is chosen once; no request changes it. -/
theorem policy_serve (request : Request) : (r.serve request).policy = r.policy := by
  cases request with
  | bind p lokey hikey sample =>
    rw [serve, bind]
    cases KeyRange.make? lokey hikey sample with
    | error e => rfl
    | ok range =>
      simp only
      cases r.check p range with
      | error e => rfl
      | ok _ => rfl
  | check p range => rfl
  | insert p range => rfl
  | unbind p sample =>
    rw [serve, unbind?]
    split
    · rename_i hr
      split at hr
      · cases hr
      · cases hr
        rfl
    · rfl
  | unbindAll sample => exact policy_unbindAll
  | clear => rfl

/-- Nor do several requests. -/
theorem policy_run (requests : List Request) :
    (Router.run (r, log) requests).1.policy = r.policy := by
  induction requests generalizing r log with
  | nil => rfl
  | cons request rest ih => exact ih.trans (policy_serve request)

/-- The programs in which a sample is bound come in ascending order. -/
theorem boundIn_ascending (r : Router) (sample : SampleHandle) :
    (r.boundIn sample).Pairwise (number · < number ·) := by
  have sorted : (r.boundIn sample).Pairwise (number · ≤ number ·) := pairwise_mergeSort_key number _
  have nodup : (r.boundIn sample).Nodup := by
    rw [boundIn, programsOf, (List.mergeSort_perm _ _).nodup_iff]
    exact (SortedMap.nodup_keys r.programs).sublist (List.filter_sublist.map _)
  refine (sorted.and nodup).imp fun {p q} both => ?_
  exact Nat.lt_of_le_of_ne both.1 fun heq => both.2 (Numbered.number_injective heq)

/-- The programs of a sample are the same in whatever order programs are visited. -/
theorem programsOf_eq_boundIn {visited : List (Program × List BoundRange)}
    (h : visited.Perm r.programs.toList) (sample : SampleHandle) :
    programsOf sample visited = r.boundIn sample := by
  have sorted (l : List (Program × List BoundRange)) :
      (programsOf sample l).Pairwise (number · ≤ number ·) := pairwise_mergeSort_key number _
  have perm : (programsOf sample visited).Perm (r.boundIn sample) := by
    refine (List.mergeSort_perm _ _).trans (.trans ?_ (List.mergeSort_perm _ _).symm)
    exact (h.filter _).map _
  refine perm.eq_of_pairwise (fun p q _ _ hpq hqp => ?_) (sorted _) (sorted _)
  exact Numbered.number_injective (Nat.le_antisymm hpq hqp)

/-- How a key map answers when the log is all there is to know. -/
structure Answers (r : Router) (log : BindLog) : Prop where
  ranges : ∀ p, r.ranges p = log.rangesOf p
  resolve : ∀ p key, r.resolve p key =
    (log.filter fun e => e.1 = p ∧ e.2.covers key = true).getLast?.map (·.2.sample)
  bindings : r.bindings = log.mergeSort (NoLater · ·)
  size : r.size = log.length
  isEmpty : r.isEmpty = true ↔ log = []
  /-- The removed ranges in bind order; a sample that is not bound cannot be unbound. -/
  unbind : ∀ p sample, (r.unbind? p sample).map (·.1) =
    let removed := (log.filter fun e => e.1 = p ∧ e.2.sample = sample).map (·.2)
    if removed = [] then none else some removed
  /-- The programs out of which a removal from all programs takes a sample, strictly ascending. -/
  boundIn_ascending : ∀ sample, (r.boundIn sample).Pairwise (number · < number ·)
  mem_boundIn : ∀ sample p,
    p ∈ r.boundIn sample ↔ ∃ range, (p, range) ∈ log ∧ range.sample = sample
  /-- A binding succeeds with the range that it asks for, exactly when the check lets it through. -/
  bind_ok : ∀ p lokey hikey sample range,
    (∃ r', r.bind p lokey hikey sample = .ok (range, r')) ↔
      (range.lokey = lokey ∧ range.hikey = hikey ∧ range.sample = sample) ∧ p.Valid ∧
        (r.policy = .reject → ∀ bound, (p, bound) ∈ log → bound.overlaps range = false)
  check_overlap : r.policy = .reject → ∀ p range, p.Valid →
    ((∃ bound, r.check p range = .error (.overlap range p bound)) ↔
      ∃ bound, (p, bound) ∈ log ∧ bound.overlaps range = true)
  check_ok : ∀ p range, r.check p range = .ok () ↔ p.Valid ∧
    (r.policy = .reject → ∀ bound, (p, bound) ∈ log → bound.overlaps range = false)
  /-- The order in which programs are visited does not show. -/
  visited : ∀ visited, visited.Perm r.programs.toList →
    arrange (listing visited) = r.bindings ∧ count visited = r.size ∧
      ∀ sample, programsOf sample visited = r.boundIn sample

namespace Follows

/-- For each program a listing has the entries of the log, in bind order. -/
theorem filter_listing_eq (h : r.Follows log) {visited : List (Program × List BoundRange)}
    (hv : visited.Perm r.programs.toList) (p : Program) :
    (listing visited).filter (·.1 = p) = log.filter (·.1 = p) := by
  rw [filter_listing hv, h.ranges_eq, BindLog.rangesOf, List.map_map]
  refine (List.map_congr_left fun e he => ?_).trans (List.map_id _)
  obtain rfl : e.1 = p := of_decide_eq_true (List.mem_filter.1 he).2
  rfl

/-- In whatever order the programs are visited, arranging gives the arranged log. -/
theorem arrange_listing (h : r.Follows log) {visited : List (Program × List BoundRange)}
    (hv : visited.Perm r.programs.toList) : arrange (listing visited) = arrange log :=
  arrange_congr (h.filter_listing_eq hv)

/-- There are as many ranges as the log has entries. -/
theorem count_eq (h : r.Follows log) {visited : List (Program × List BoundRange)}
    (hv : visited.Perm r.programs.toList) : count visited = log.length := by
  have same := congrArg List.length (h.arrange_listing hv)
  rwa [arrange, arrange, List.length_mergeSort, List.length_mergeSort, length_listing] at same

/-- A key map is empty when nothing is left in its log. -/
theorem isEmpty_iff (h : r.Follows log) : r.isEmpty = true ↔ log = [] := by
  rw [isEmpty, SortedMap.isEmpty_iff]
  constructor
  · intro none_kept
    refine List.eq_nil_iff_forall_not_mem.2 fun (p, range) hmem => ?_
    rw [← BindLog.mem_rangesOf, ← h.ranges_eq, ranges,
      bound_eq_nil_of_find?_eq_none (none_kept p)] at hmem
    cases hmem
  · rintro rfl p
    refine Option.eq_none_iff_forall_ne_some.2 fun bound hb => ?_
    have nothing : r.ranges p = [] := h.ranges_eq p
    rw [ranges, bound_eq_of_find?_eq_some hb, List.map_eq_nil_iff] at nothing
    exact h.inOrder.ne_nil p (nothing ▸ hb)

/-- A key map that follows a log answers every question as the log does. -/
theorem answers (h : r.Follows log) : r.Answers log where
  ranges := h.ranges_eq
  resolve p key := by
    rw [resolve_eq h.inOrder, h.ranges_eq, BindLog.filter_rangesOf, List.getLast?_map,
      Option.map_map]
    rfl
  bindings := (h.arrange_listing (.refl _)).trans (arrange_eq log)
  size := h.count_eq (.refl _)
  isEmpty := h.isEmpty_iff
  unbind p sample := by
    rw [unbind?, h.ranges_eq, BindLog.filter_rangesOf]
    simp only [decide_eq_true_eq, ← List.isEmpty_iff]
    split
    · rfl
    · rfl
  boundIn_ascending := r.boundIn_ascending
  mem_boundIn sample p := by
    simp [Router.mem_boundIn, isBound, h.ranges_eq, BindLog.mem_rangesOf]
  bind_ok p lokey hikey sample range := by
    simp only [exists_bind_eq_ok_iff, KeyRange.make?_eq_ok_iff, check_eq_ok_iff, h.ranges_eq,
      BindLog.mem_rangesOf]
  check_overlap hr p range hv := by
    simp only [exists_check_eq_overlap_iff hv hr, h.ranges_eq, BindLog.mem_rangesOf]
  check_ok p range := by
    simp only [check_eq_ok_iff, h.ranges_eq, BindLog.mem_rangesOf]
  visited visited hv :=
    ⟨(h.arrange_listing hv).trans (h.arrange_listing (.refl _)).symm,
      (h.count_eq hv).trans (h.count_eq (.refl _)).symm, programsOf_eq_boundIn hv⟩

end Follows

/-- After any requests to an empty key map, it answers as the log of these requests does. -/
theorem run_answers (policy : OverlapPolicy) (requests : List Request) :
    (run (.empty policy, []) requests).1.policy = policy ∧
      (run (.empty policy, []) requests).1.Answers (run (.empty policy, []) requests).2 :=
  ⟨policy_run requests, ((Follows.empty policy).run requests).answers⟩

end Router

end SampleBank
