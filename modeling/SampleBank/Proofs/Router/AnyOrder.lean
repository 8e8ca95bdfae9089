import Mathlib.Data.List.Pairwise
import SampleBank.Proofs.Router.Separate

/-!
# Binding in any order

Whether a key map that refuses overlaps accepts a request depends on what was bound before. For a
whole list of requests it does not matter in which order they come: an empty key map grants all of
them exactly when each is valid and no two of them meet on a key of a program
(`Router.allGranted_iff`), and this is the same for every permutation of the list.

Nor can the order be told afterwards. The logs of two such runs are permutations of each other, and
since no two ranges of a program have the same low key, the place of a binding in the listing is its
own (`Separate.eq_of_rank_eq`). So the listings are equal, and all the other answers can be read off
them (`Follows.alike`).
-/

namespace SampleBank

open Numbered (number)

/-! ### Requests -/

/-- What is asked of a key map when a sample is to be bound. -/
structure Placement where
  program : Program
  lokey : UInt8
  hikey : UInt8
  sample : SampleHandle
deriving DecidableEq

namespace Placement

/-- Whether program and keys are valid and the keys are in order. -/
def Valid (a : Placement) : Prop := a.program.Valid ∧ a.lokey ≤ a.hikey ∧ a.hikey ≤ maxKey

/-- Whether a key lies within what is asked for. -/
def covers (a : Placement) (key : UInt8) : Bool := a.lokey ≤ key && key ≤ a.hikey

/-- Whether two requests ask for one key of a program. -/
def Collides (a b : Placement) : Prop :=
  a.program = b.program ∧ ∃ key, a.covers key = true ∧ b.covers key = true

/-- Whether nothing in a log is bound to a key that is asked for. -/
def Free (a : Placement) (log : BindLog) : Prop :=
  ∀ e ∈ log, ¬(e.1 = a.program ∧ ∃ key, e.2.covers key = true ∧ a.covers key = true)

/-- What a request that is granted puts into the log. -/
def entry? (a : Placement) : Option (Program × KeyRange) :=
  match KeyRange.make? a.lokey a.hikey a.sample with
  | .ok range => some (a.program, range)
  | .error _ => none

theorem Collides.symm {a b : Placement} (h : a.Collides b) : b.Collides a := by
  obtain ⟨program, key, ha, hb⟩ := h
  exact ⟨program.symm, key, hb, ha⟩

/-- The keys of a valid request make a range. -/
theorem exists_make?_iff {a : Placement} :
    (∃ range, KeyRange.make? a.lokey a.hikey a.sample = .ok range) ↔
      a.lokey ≤ a.hikey ∧ a.hikey ≤ maxKey := by
  simp only [KeyRange.make?_eq_ok_iff]
  constructor
  · rintro ⟨range, h_lokey, h_hikey, -⟩
    rw [← h_lokey, ← h_hikey]
    exact ⟨range.lokey_le_hikey, range.hikey_le_maxKey⟩
  · rintro ⟨ordered, le⟩
    exact ⟨⟨a.lokey, a.hikey, a.sample, ordered, le⟩, rfl, rfl, rfl⟩

theorem covers_of_make? {a : Placement} {range : KeyRange}
    (made : KeyRange.make? a.lokey a.hikey a.sample = .ok range) : range.covers = a.covers := by
  obtain ⟨h_lokey, h_hikey, -⟩ := KeyRange.make?_eq_ok_iff.1 made
  funext key
  rw [KeyRange.covers, h_lokey, h_hikey, covers]

theorem free_nil (a : Placement) : a.Free [] := nofun

/-- Behind the entry of another request there is room for what had room before and does not collide
with it. -/
theorem free_append_iff {a b : Placement} {log : BindLog} {range : KeyRange}
    (made : KeyRange.make? a.lokey a.hikey a.sample = .ok range) :
    b.Free (log ++ [(a.program, range)]) ↔ b.Free log ∧ ¬a.Collides b := by
  rw [Free, List.forall_mem_append, List.forall_mem_singleton, covers_of_make? made]
  rfl

end Placement

namespace Router

variable {r s : Router} {log log' : BindLog} {requests : List Placement}

/-- Issues requests one after the other: what each of them is answered, and the key map
afterwards. -/
def bindAll (r : Router) : List Placement → List (Except RouterError KeyRange) × Router
  | [] => ([], r)
  | a :: later =>
    match r.bind a.program a.lokey a.hikey a.sample with
    | .error e =>
      let (answers, r) := bindAll r later
      (.error e :: answers, r)
    | .ok (range, r) =>
      let (answers, r) := bindAll r later
      (.ok range :: answers, r)

/-- Whether every request is granted. -/
def AllGranted (r : Router) (requests : List Placement) : Prop :=
  ∀ answer ∈ (r.bindAll requests).1, ∃ range, answer = .ok range

/-! ### When all requests are granted -/

theorem allGranted_cons_iff {a : Placement} {later : List Placement} :
    r.AllGranted (a :: later) ↔
      ∃ range r', r.bind a.program a.lokey a.hikey a.sample = .ok (range, r') ∧
        r'.AllGranted later := by
  rw [AllGranted, bindAll]
  cases bound : r.bind a.program a.lokey a.hikey a.sample with
  | error e => simp
  | ok answer =>
    obtain ⟨range, r'⟩ := answer
    simp [AllGranted]

/-- Under `reject` a request is granted exactly when it is valid and its keys are free. -/
theorem Follows.exists_bind_iff (h : r.Follows log) (reject : r.policy = .reject)
    (a : Placement) :
    (∃ range r', r.bind a.program a.lokey a.hikey a.sample = .ok (range, r')) ↔
      a.Valid ∧ a.Free log := by
  have apart_iff {range : KeyRange} (made : KeyRange.make? a.lokey a.hikey a.sample = .ok range) :
      (∀ bound, (a.program, bound) ∈ log → bound.overlaps range = false) ↔ a.Free log := by
    simp only [← Bool.not_eq_true, KeyRange.overlaps_iff_exists_covers,
      Placement.covers_of_make? made, Placement.Free, Prod.forall]
    exact ⟨fun apart p bound hb meet => apart bound (meet.1 ▸ hb) meet.2,
      fun free bound hb meet => free a.program bound hb ⟨rfl, meet⟩⟩
  simp only [h.answers.bind_ok, ← KeyRange.make?_eq_ok_iff, reject, forall_const]
  rw [Placement.Valid, ← Placement.exists_make?_iff]
  constructor
  · rintro ⟨range, made, valid, apart⟩
    exact ⟨⟨valid, range, made⟩, (apart_iff made).1 apart⟩
  · rintro ⟨⟨valid, range, made⟩, free⟩
    exact ⟨range, made, valid, (apart_iff made).2 free⟩

/-- A request that is granted is logged. -/
theorem of_bind_ok {a : Placement} {range : KeyRange} {r' : Router}
    (bound : r.bind a.program a.lokey a.hikey a.sample = .ok (range, r')) :
    KeyRange.make? a.lokey a.hikey a.sample = .ok range ∧ r.check a.program range = .ok () ∧
      r' = r.insert a.program range := by
  rw [bind] at bound
  split at bound
  · cases bound
  · rename_i range' made
    split at bound
    · cases bound
    · rename_i passed
      obtain ⟨rfl, rfl⟩ := Prod.mk.inj (Except.ok.inj bound)
      exact ⟨made, passed, rfl⟩

/-- All requests are granted exactly when they are valid, no two of them collide, and each is free
of what was bound before. -/
theorem Follows.allGranted_iff (h : r.Follows log) (reject : r.policy = .reject) :
    r.AllGranted requests ↔ (∀ a ∈ requests, a.Valid) ∧
      requests.Pairwise (fun a b => ¬a.Collides b) ∧ ∀ a ∈ requests, a.Free log := by
  induction requests generalizing r log with
  | nil => exact iff_of_true nofun ⟨nofun, .nil, nofun⟩
  | cons a later ih =>
    rw [allGranted_cons_iff, List.forall_mem_cons, List.forall_mem_cons, List.pairwise_cons]
    -- the later requests meet the log to which the first one has been added
    have later_iff {range r'}
        (bound : r.bind a.program a.lokey a.hikey a.sample = .ok (range, r')) :
        r'.AllGranted later ↔ (∀ b ∈ later, b.Valid) ∧
          later.Pairwise (fun b c => ¬b.Collides c) ∧
            ∀ b ∈ later, b.Free log ∧ ¬a.Collides b := by
      obtain ⟨made, -, rfl⟩ := of_bind_ok bound
      rw [ih (h.insert a.program range) reject]
      simp only [Placement.free_append_iff made]
    constructor
    · rintro ⟨range, r', bound, granted⟩
      obtain ⟨valid, free⟩ := (h.exists_bind_iff reject a).1 ⟨range, r', bound⟩
      obtain ⟨later_valid, apart, later_free⟩ := (later_iff bound).1 granted
      exact ⟨⟨valid, later_valid⟩, ⟨fun b hb => (later_free b hb).2, apart⟩, free,
        fun b hb => (later_free b hb).1⟩
    · rintro ⟨⟨valid, later_valid⟩, ⟨first_apart, apart⟩, free, later_free⟩
      obtain ⟨range, r', bound⟩ := (h.exists_bind_iff reject a).2 ⟨valid, free⟩
      refine ⟨range, r', bound, (later_iff bound).2 ⟨later_valid, apart, fun b hb => ?_⟩⟩
      exact ⟨later_free b hb, first_apart b hb⟩

/-- An empty key map that refuses overlaps grants all requests exactly when they are valid and no
two of them collide. -/
theorem allGranted_iff : (empty .reject).AllGranted requests ↔
    (∀ a ∈ requests, a.Valid) ∧ requests.Pairwise fun a b => ¬a.Collides b := by
  rw [(Follows.empty .reject).allGranted_iff rfl]
  refine and_congr_right fun _ => and_iff_left fun a _ => a.free_nil

/-- What all requests leave behind: their entries in the log, and nothing that overlaps. -/
theorem Follows.bindAll (h : r.Follows log) (reject : r.policy = .reject) (separate : r.Separate)
    (granted : r.AllGranted requests) :
    (r.bindAll requests).2.Follows (log ++ requests.filterMap Placement.entry?) ∧
      (r.bindAll requests).2.Separate := by
  induction requests generalizing r log with
  | nil =>
    rw [List.filterMap_nil, List.append_nil]
    exact ⟨h, separate⟩
  | cons a later ih =>
    obtain ⟨range, r', bound, later_granted⟩ := allGranted_cons_iff.1 granted
    obtain ⟨made, passed, rfl⟩ := of_bind_ok bound
    have logged : a.entry? = some (a.program, range) := by rw [Placement.entry?, made]
    have rest := ih (h.insert a.program range) reject (separate.insert reject passed) later_granted
    rw [Router.bindAll, bound, List.filterMap_cons_some logged]
    rwa [List.append_assoc, List.singleton_append] at rest

/-! ### What the order leaves alone -/

/-- Where nothing overlaps, no two bindings have the same place in the listing: they would be of one
program and have the same low key. -/
theorem Separate.eq_of_rank_eq (separate : r.Separate) (h : r.Follows log)
    {a b : Program × KeyRange} (ha : a ∈ log) (hb : b ∈ log) (same : rank a = rank b) : a = b := by
  have hp := program_eq_of_rank_eq same
  obtain ⟨p, range⟩ := a
  obtain ⟨q, range'⟩ := b
  obtain rfl : p = q := hp
  rw [← BindLog.mem_rangesOf, ← h.ranges_eq] at ha hb
  have low_key : range.lokey = range'.lokey := by
    have := range.hikey.toNat_lt
    have := range'.hikey.toNat_lt
    simp only [rank] at same
    exact UInt8.toNat_inj.1 (by omega)
  have covers_low (range : KeyRange) : range.covers range.lokey = true :=
    KeyRange.covers_iff.2 ⟨UInt8.le_refl _, range.lokey_le_hikey⟩
  by_contra ne
  have : Std.Symm fun a b : KeyRange => a.overlaps b = false :=
    ⟨fun a b apart => (b.overlaps_comm a).trans apart⟩
  have apart := (separate.apart p).forall ha hb fun eq => ne (by rw [eq])
  exact not_covers_of_overlaps_eq_false apart range.lokey
    ⟨covers_low range, low_key ▸ covers_low range'⟩

/-- Key maps that cannot be told apart: they list the same bindings, every key of every program
plays the same sample in both, and removing a sample from all programs takes it out of the same ones
and leaves the same bindings. -/
structure Alike (r s : Router) : Prop where
  bindings : r.bindings = s.bindings
  size : r.size = s.size
  resolve : ∀ p key, r.resolve p key = s.resolve p key
  boundIn : ∀ sample, r.boundIn sample = s.boundIn sample
  unbindAll : ∀ sample, (r.unbindAll sample).bindings = (s.unbindAll sample).bindings

namespace Follows

/-- The listing does not show in which order bindings that do not overlap were made. -/
theorem bindings_eq_of_perm (h : r.Follows log) (separate : r.Separate) (h' : s.Follows log')
    (perm : log.Perm log') : r.bindings = s.bindings := by
  have both : r.bindings.Perm s.bindings :=
    h.bindings_perm.trans (perm.trans h'.bindings_perm.symm)
  refine both.eq_of_pairwise (fun a b ha hb hab hba => ?_)
    (pairwise_mergeSort_key rank _) (pairwise_mergeSort_key rank _)
  refine separate.eq_of_rank_eq h (h.bindings_perm.mem_iff.1 ha) ?_ (Nat.le_antisymm hab hba)
  exact perm.mem_iff.2 (h'.bindings_perm.mem_iff.1 hb)

/-- Key maps without overlaps whose logs differ in their order only cannot be told apart. -/
theorem alike (h : r.Follows log) (separate : r.Separate) (h' : s.Follows log')
    (separate' : s.Separate) (perm : log.Perm log') : r.Alike s where
  bindings := h.bindings_eq_of_perm separate h' perm
  size := by rw [h.answers.size, h'.answers.size, perm.length_eq]
  resolve p key := by
    refine Option.ext fun sample => ?_
    rw [(h.unambiguous separate).resolve, (h'.unambiguous separate').resolve,
      h.bindings_eq_of_perm separate h' perm]
  boundIn sample := by
    have alike : (r.boundIn sample).Perm (s.boundIn sample) := by
      refine (List.perm_ext_iff_of_nodup ?_ ?_).2 fun p => ?_
      · exact (r.boundIn_ascending sample).imp fun lt eq => Nat.ne_of_lt lt (congrArg number eq)
      · exact (s.boundIn_ascending sample).imp fun lt eq => Nat.ne_of_lt lt (congrArg number eq)
      · simp only [h.answers.mem_boundIn, h'.answers.mem_boundIn, perm.mem_iff]
    refine alike.eq_of_pairwise (fun p q _ _ lt gt => ?_) (r.boundIn_ascending sample)
      (s.boundIn_ascending sample)
    exact absurd lt (Nat.lt_asymm gt)
  unbindAll sample := by
    refine (h.step (.unbindAll sample)).bindings_eq_of_perm ?_ (h'.step (.unbindAll sample))
      (perm.filter _)
    refine separate.of_sublist fun q => ?_
    rw [serve, ranges_unbindAll]
    exact List.filter_sublist

end Follows

/-- Requests to an empty key map that refuses overlaps are all granted exactly when they are valid
and no two of them collide. Then they are granted in every other order too, and the key maps that
result cannot be told apart. -/
theorem allGranted_iff_and_alike_of_perm (requests : List Placement) :
    let r := (empty .reject).bindAll requests
    ((empty .reject).AllGranted requests ↔
      (∀ a ∈ requests, a.Valid) ∧ requests.Pairwise fun a b => ¬a.Collides b) ∧
    ((empty .reject).AllGranted requests → ∀ reordered, requests.Perm reordered →
      (empty .reject).AllGranted reordered ∧
        r.2.Alike ((empty .reject).bindAll reordered).2) := by
  refine ⟨allGranted_iff, fun granted reordered perm => ?_⟩
  obtain ⟨valid, apart⟩ := allGranted_iff.1 granted
  have granted' : (empty .reject).AllGranted reordered := by
    refine allGranted_iff.2 ⟨fun a ha => valid a (perm.mem_iff.2 ha), ?_⟩
    exact (perm.pairwise_iff fun ne collides => ne collides.symm).1 apart
  obtain ⟨h, separate⟩ := (Follows.empty .reject).bindAll rfl (.empty .reject) granted
  obtain ⟨h', separate'⟩ := (Follows.empty .reject).bindAll rfl (.empty .reject) granted'
  refine ⟨granted', h.alike separate h' separate' ?_⟩
  exact perm.filterMap _

/-- The upper and the lower half of the keys. -/
def halves : List Placement := [⟨⟨0, 0⟩, 60, 127, ⟨0⟩⟩, ⟨⟨0, 0⟩, 0, 59, ⟨1⟩⟩]

/-- They can be bound in either order. -/
theorem alike_halves : (empty .reject).AllGranted halves ∧
    ((empty .reject).bindAll halves).2.Alike
      ((empty .reject).bindAll [⟨⟨0, 0⟩, 0, 59, ⟨1⟩⟩, ⟨⟨0, 0⟩, 60, 127, ⟨0⟩⟩]).2 := by
  have granted : (empty .reject).AllGranted halves := by
    intro answer h
    have answers : ((empty .reject).bindAll halves).1 =
      [.ok ⟨60, 127, ⟨0⟩, by decide, by decide⟩, .ok ⟨0, 59, ⟨1⟩, by decide, by decide⟩] := rfl
    rw [answers] at h
    simp only [List.mem_cons, List.not_mem_nil, or_false] at h
    rcases h with rfl | rfl
    · exact ⟨_, rfl⟩
    · exact ⟨_, rfl⟩
  exact ⟨granted, ((allGranted_iff_and_alike_of_perm halves).2 granted _ (.swap ..)).2⟩

end Router

end SampleBank
