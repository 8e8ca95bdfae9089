import Mathlib.Data.List.Nodup
import SampleBank.Proofs.Router.Log

/-!
# Key maps that refuse overlaps

Under `OverlapPolicy.reject` no key of a program is bound twice. The invariant is
`Router.Separate`: what is bound in a program is pairwise without a common key. A range joins only
after it has passed the check against all that are there, and removals take away only, so every
request that goes through the check keeps it (`Separate.serve`). This is the case for all requests
but the bare insertion, of which `Router.Admits` asks that the range has passed the check before;
`Router.Becomes` is what a key map can come to in this way.

`Router.Unambiguous` is what a caller gets from it: a key has at most one binding, so a lookup
answers with any binding that covers the key, and since every range takes up at least one of the
128 keys, a program has at most 128 ranges (`length_le_of_apart`).
-/

namespace SampleBank

namespace Router

variable {r s t : Router} {log : BindLog} {p q : Program} {range : KeyRange} {request : Request}

/-! ### Requests that go through the check -/

/-- Whether a request inserts nothing but what the check lets through. -/
def Admits (r : Router) : Request → Prop
  | .insert p range => r.check p range = .ok ()
  | _ => True

/-- What a key map can become by requests that go through the check. -/
inductive Becomes (r : Router) : Router → Prop
  | refl : r.Becomes r
  | serve {s : Router} (request : Request) :
    r.Becomes s → s.Admits request → r.Becomes (s.serve request)

namespace Becomes

theorem trans (first : r.Becomes s) (second : s.Becomes t) : r.Becomes t := by
  induction second with
  | refl => exact first
  | serve request _ admitted ih => exact ih.serve request admitted

theorem policy (b : r.Becomes s) : s.policy = r.policy := by
  induction b with
  | refl => rfl
  | serve _ _ _ ih => exact (policy_serve _).trans ih

/-- A key map that follows a log still follows one. -/
theorem follows (b : r.Becomes s) (h : r.Follows log) : ∃ log', s.Follows log' := by
  induction b with
  | refl => exact ⟨log, h⟩
  | serve _ _ _ ih =>
    obtain ⟨log', h'⟩ := ih
    exact ⟨_, h'.step _⟩

theorem inOrder {policy : OverlapPolicy} (b : (empty policy).Becomes r) : r.InOrder := by
  obtain ⟨log, h⟩ := b.follows (.empty policy)
  exact h.inOrder

end Becomes

/-- A request adds a range that passed the check, or adds none. -/
theorem serve_cases (admitted : r.Admits request) :
    (∃ p range, r.check p range = .ok () ∧ r.serve request = r.insert p range) ∨
      ∀ q, ((r.serve request).ranges q).Sublist (r.ranges q) := by
  cases request with
  | bind p lokey hikey sample =>
    rw [serve, bind]
    cases KeyRange.make? lokey hikey sample with
    | error e => exact .inr fun q => .refl _
    | ok range =>
      simp only
      cases passed : r.check p range with
      | error e => exact .inr fun q => .refl _
      | ok _ => exact .inl ⟨p, range, passed, rfl⟩
  | check p range => exact .inr fun q => .refl _
  | insert p range => exact .inl ⟨p, range, admitted, rfl⟩
  | unbind p sample =>
    refine .inr fun q => ?_
    rw [serve, unbind?]
    split
    · rename_i removed
      split at removed
      · cases removed
      · cases removed
        rw [ranges_remove]
        split
        · rename_i hq
          exact hq ▸ List.filter_sublist
        · exact .refl _
    · exact .refl _
  | unbindAll sample =>
    refine .inr fun q => ?_
    rw [serve, ranges_unbindAll]
    exact List.filter_sublist
  | clear => exact .inr fun q => List.nil_sublist _

/-! ### The invariant -/

/-- Only valid programs have ranges, and the ranges of a program overlap nowhere. -/
structure Separate (r : Router) : Prop where
  valid : ∀ p, ∀ range ∈ r.ranges p, p.Valid
  apart : ∀ p, (r.ranges p).Pairwise fun a b => a.overlaps b = false

namespace Separate

theorem empty (policy : OverlapPolicy) : (empty policy).Separate where
  valid _ _ hr := absurd hr List.not_mem_nil
  apart _ := .nil

/-- Fewer ranges in the same order are still apart. -/
theorem of_sublist (h : r.Separate) (sub : ∀ q, (s.ranges q).Sublist (r.ranges q)) :
    s.Separate where
  valid p range hr := h.valid p range ((sub p).subset hr)
  apart p := (h.apart p).sublist (sub p)

/-- A range that has passed the check overlaps none of those in its program. -/
theorem insert (h : r.Separate) (reject : r.policy = .reject)
    (passed : r.check p range = .ok ()) : (r.insert p range).Separate := by
  obtain ⟨valid, apart⟩ := check_eq_ok_iff.1 passed
  refine ⟨fun q other hr => ?_, fun q => ?_⟩
  · rw [ranges_insert] at hr
    split at hr
    · rename_i hq
      exact hq ▸ valid
    · exact h.valid q other hr
  · rw [ranges_insert]
    split
    · refine List.pairwise_append.2 ⟨h.apart p, List.pairwise_singleton .., ?_⟩
      intro bound hb last hl
      rw [List.mem_singleton.1 hl]
      exact apart reject bound hb
    · exact h.apart q

theorem serve (h : r.Separate) (reject : r.policy = .reject) (admitted : r.Admits request) :
    (r.serve request).Separate := by
  rcases serve_cases admitted with ⟨p, range, passed, eq⟩ | sub
  · rw [eq]
    exact h.insert reject passed
  · exact h.of_sublist sub

theorem of_becomes (h : r.Separate) (reject : r.policy = .reject) (b : r.Becomes s) :
    s.Separate := by
  induction b with
  | refl => exact h
  | serve _ before admitted ih => exact ih.serve (before.policy.trans reject) admitted

end Separate

/-! ### Ranges that overlap nowhere -/

section Apart

variable {ranges : List KeyRange}

/-- A key that two ranges cover makes them overlap. -/
theorem not_covers_of_overlaps_eq_false {a b : KeyRange} (h : a.overlaps b = false) (key : UInt8) :
    ¬(a.covers key = true ∧ b.covers key = true) := by
  intro both
  rw [KeyRange.overlaps_iff_exists_covers.2 ⟨key, both⟩] at h
  cases h

/-- Two that cover one key would overlap. -/
theorem length_le_one_of_covers {key : UInt8}
    (apart : ranges.Pairwise fun a b => a.overlaps b = false)
    (covers : ∀ a ∈ ranges, a.covers key = true) : ranges.length ≤ 1 := by
  match ranges with
  | [] => exact Nat.zero_le _
  | [_] => exact Nat.le_refl _
  | a :: b :: rest =>
    have disjoint := List.rel_of_pairwise_cons apart List.mem_cons_self
    have both : a.covers key = true ∧ b.covers key = true :=
      ⟨covers a List.mem_cons_self, covers b (.tail _ List.mem_cons_self)⟩
    exact absurd both (not_covers_of_overlaps_eq_false disjoint key)

/-- At most one of them covers a key. -/
theorem length_filter_covers_le (apart : ranges.Pairwise fun a b => a.overlaps b = false)
    (key : UInt8) : (ranges.filter (·.covers key)).length ≤ 1 :=
  length_le_one_of_covers (apart.filter _) fun _ ha => (List.mem_filter.1 ha).2

/-- Their low keys are different numbers below 128, so there are at most that many. -/
theorem length_le_of_apart (apart : ranges.Pairwise fun a b => a.overlaps b = false) :
    ranges.length ≤ 128 := by
  have low_covered (a : KeyRange) : a.covers a.lokey = true :=
    KeyRange.covers_iff.2 ⟨UInt8.le_refl _, a.lokey_le_hikey⟩
  have lows : (ranges.map (·.lokey.toNat)).Nodup := by
    refine List.pairwise_map.2 (apart.imp fun {a b} h eq => ?_)
    have same : a.lokey = b.lokey := UInt8.toNat_inj.1 eq
    exact not_covers_of_overlaps_eq_false h a.lokey ⟨low_covered a, same ▸ low_covered b⟩
  have below : ranges.map (·.lokey.toNat) ⊆ List.range 128 := by
    intro n hn
    obtain ⟨a, -, rfl⟩ := List.mem_map.1 hn
    have low_le : a.lokey.toNat ≤ maxKey.toNat :=
      UInt8.le_iff_toNat_le.1 (UInt8.le_trans a.lokey_le_hikey a.hikey_le_maxKey)
    exact List.mem_range.2 (Nat.lt_succ_of_le low_le)
  simpa using lows.length_le_of_subset below

/-- Where at most one range covers a key, the last one that does is any that does. -/
theorem getLast?_filter_covers (apart : ranges.Pairwise fun a b => a.overlaps b = false)
    {key : UInt8} :
    (ranges.filter (·.covers key)).getLast? = some range ↔
      range ∈ ranges ∧ range.covers key = true := by
  have one := length_filter_covers_le apart key
  have mem : range ∈ ranges.filter (·.covers key) ↔ range ∈ ranges ∧ range.covers key = true :=
    List.mem_filter
  rw [← mem]
  refine ⟨List.mem_of_getLast?, fun hr => ?_⟩
  -- a list of one entry ends in that entry
  obtain ⟨only, eq⟩ := List.length_eq_one_iff.1 (Nat.le_antisymm one (List.length_pos_of_mem hr))
  rw [eq] at hr ⊢
  rw [List.mem_singleton.1 hr, List.getLast?_singleton]

end Apart

/-! ### What callers can rely on -/

/-- A key map in which no key of a program is bound twice. -/
structure Unambiguous (r : Router) : Prop where
  programs : ∀ p ∈ r.programs.keys, p.bank ≤ 16383 ∧ p.preset ≤ 127
  keys : ∀ p, ∀ range ∈ r.ranges p, range.lokey ≤ range.hikey ∧ range.hikey ≤ 127
  /-- Any two ranges of a program have no key in common. -/
  apart : ∀ p, (r.ranges p).Pairwise fun a b =>
    ∀ key, ¬(a.covers key = true ∧ b.covers key = true)
  /-- A key has at most one binding. -/
  once : ∀ p key, (r.bindings.filter fun b => b.1 = p ∧ b.2.covers key = true).length ≤ 1
  resolve : ∀ p key h, r.resolve p key = some h ↔
    ∃ range, (p, range) ∈ r.bindings ∧ range.covers key = true ∧ range.sample = h
  length_le : ∀ p, (r.ranges p).length ≤ 128

namespace Follows

theorem bindings_perm (h : r.Follows log) : r.bindings.Perm log := by
  rw [h.answers.bindings]
  exact List.mergeSort_perm ..

/-- The listing of all bindings has those of a program that its ranges are. -/
theorem mem_bindings (h : r.Follows log) : (p, range) ∈ r.bindings ↔ range ∈ r.ranges p := by
  rw [h.bindings_perm.mem_iff, h.ranges_eq, BindLog.mem_rangesOf]

theorem length_filter_bindings (h : r.Follows log) (p : Program) (keep : KeyRange → Bool) :
    (r.bindings.filter fun b => b.1 = p ∧ keep b.2 = true).length =
      ((r.ranges p).filter keep).length := by
  rw [(h.bindings_perm.filter _).length_eq, h.ranges_eq, BindLog.filter_rangesOf, List.length_map]

theorem unambiguous (h : r.Follows log) (separate : r.Separate) : r.Unambiguous where
  programs p hp := by
    obtain ⟨bound, found⟩ := SortedMap.contains_iff.1 (SortedMap.mem_keys_iff.1 hp)
    -- no program is kept without ranges, and those that have some are valid
    obtain ⟨b, hb⟩ := List.exists_mem_of_ne_nil bound fun eq => h.inOrder.ne_nil p (eq ▸ found)
    refine separate.valid p b.range ?_
    rw [ranges, bound_eq_of_find?_eq_some found]
    exact List.mem_map_of_mem hb
  keys p range _ := ⟨range.lokey_le_hikey, range.hikey_le_maxKey⟩
  apart p := (separate.apart p).imp fun overlaps => not_covers_of_overlaps_eq_false overlaps
  once p key := by
    rw [h.length_filter_bindings p (·.covers key)]
    exact length_filter_covers_le (separate.apart p) key
  resolve p key sample := by
    rw [resolve_eq h.inOrder, Option.map_eq_some_iff]
    simp only [getLast?_filter_covers (separate.apart p), h.mem_bindings, and_assoc]
  length_le p := length_le_of_apart (separate.apart p)

end Follows

/-- A key map that started empty and refuses overlaps has none. -/
theorem Becomes.unambiguous (b : (empty .reject).Becomes r) : r.Unambiguous := by
  obtain ⟨log, h⟩ := b.follows (.empty .reject)
  exact h.unambiguous ((Separate.empty .reject).of_becomes rfl b)

end Router

end SampleBank
