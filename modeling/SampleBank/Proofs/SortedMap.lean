import SampleBank.SortedMap

/-!
# Entries and keys of sorted maps

Lookups determine everything else about a `SortedMap`: its entries are the successful lookups
(`mem_toList_iff`) and its keys, which do not repeat, are what it contains (`mem_keys_iff`,
`nodup_keys`). Adding a new key and removing a present one therefore change the list of keys by
exactly that key, up to order (`keys_insert_perm`, `keys_erase_perm`).
-/

namespace SampleBank

open Numbered (number)

@[simp]
theorem Numbered.number_inj {κ : Type} [Numbered κ] {a b : κ} : number a = number b ↔ a = b :=
  ⟨Numbered.number_injective, congrArg number⟩

namespace Entries

variable {κ α : Type} [Numbered κ]

/-- In ascending entries a lookup succeeds exactly with the entry that stands there. -/
theorem mem_iff_find?_eq_some {k : κ} {v : α} {l : List (κ × α)} (h : Ascending l) :
    (k, v) ∈ l ↔ find? k l = some v := by
  induction l with
  | nil => simp [find?]
  | cons hd tl ih =>
    obtain ⟨k', v'⟩ := hd
    obtain ⟨hd_lt, tl_asc⟩ := List.pairwise_cons.1 h
    rw [find?, List.mem_cons, ih tl_asc]
    by_cases hk : k = k'
    · subst hk
      -- the entries behind have higher keys, so this one is not repeated
      have absent : find? k tl = none := find?_eq_none_of_lt fun e he => hd_lt e he
      rw [if_pos rfl, absent]
      simp [eq_comm]
    · rw [if_neg fun hn => hk (Numbered.number_injective hn)]
      simp [hk]

/-- A key that lies above all others goes to the end. -/
theorem insert_eq_append {k : κ} (v : α) {l : List (κ × α)}
    (above : ∀ e ∈ l, number e.1 < number k) : insert k v l = l ++ [(k, v)] := by
  induction l with
  | nil => rfl
  | cons hd tl ih =>
    obtain ⟨k', v'⟩ := hd
    have hk : number k' < number k := above (k', v') List.mem_cons_self
    rw [insert, if_neg (Nat.lt_asymm hk), if_neg (Nat.ne_of_gt hk),
      ih fun e he => above e (List.mem_cons_of_mem _ he)]
    rfl

end Entries

namespace SortedMap

variable {κ α β : Type} [Numbered κ]

/-- The entries of a map are its successful lookups. -/
theorem mem_toList_iff {m : SortedMap κ α} {k : κ} {v : α} :
    (k, v) ∈ m.toList ↔ m.find? k = some v :=
  Entries.mem_iff_find?_eq_some m.ascending

theorem contains_iff {m : SortedMap κ α} {k : κ} :
    m.contains k = true ↔ ∃ v, m.find? k = some v := by
  rw [contains, Option.isSome_iff_exists]

/-- The keys of a map are what it contains. -/
theorem mem_keys_iff {m : SortedMap κ α} {k : κ} : k ∈ m.keys ↔ m.contains k = true := by
  rw [contains_iff, keys, List.mem_map]
  constructor
  · rintro ⟨⟨k', v⟩, hmem, rfl⟩
    exact ⟨v, mem_toList_iff.1 hmem⟩
  · rintro ⟨v, hv⟩
    exact ⟨(k, v), mem_toList_iff.2 hv, rfl⟩

/-- The keys of a map ascend strictly. -/
theorem pairwise_keys (m : SortedMap κ α) : m.keys.Pairwise (number · < number ·) :=
  List.pairwise_map.2 m.ascending

theorem nodup_keys (m : SortedMap κ α) : m.keys.Nodup :=
  m.pairwise_keys.imp fun {a b} hlt (heq : a = b) => Nat.lt_irrefl _ (heq ▸ hlt)

@[simp] theorem length_keys (m : SortedMap κ α) : m.keys.length = m.size :=
  List.length_map ..

/-- A map without entries answers no lookup. -/
theorem isEmpty_iff {m : SortedMap κ α} : m.isEmpty = true ↔ ∀ k, m.find? k = none := by
  constructor
  · intro h k
    rw [isEmpty, List.isEmpty_iff] at h
    rw [find?, h, Entries.find?]
  · intro h
    rw [show m = empty from ext_find? fun k => h k]
    rfl

theorem toList_insert_of_lt {m : SortedMap κ α} {k : κ} (v : α)
    (above : ∀ e ∈ m.toList, number e.1 < number k) :
    (m.insert k v).toList = m.toList ++ [(k, v)] :=
  Entries.insert_eq_append v above

/-- Looking up every key gives the values in their order. -/
theorem filterMap_find?_keys (m : SortedMap κ α) : m.keys.filterMap m.find? = m.values := by
  have found : ∀ e ∈ m.toList, m.find? e.1 = some e.2 := fun _ => mem_toList_iff.1
  rw [keys, values]
  generalize m.toList = l at found
  induction l with
  | nil => rfl
  | cons e rest ih =>
    obtain ⟨first, others⟩ := List.forall_mem_cons.1 found
    rw [List.map_cons, List.filterMap_cons_some first, ih others, List.map_cons]

section Update

variable [DecidableEq κ]

theorem find?_insert_eq_ite (m : SortedMap κ α) (k k' : κ) (v : α) :
    (m.insert k v).find? k' = if k' = k then some v else m.find? k' := by
  simp only [find?_insert, Numbered.number_inj]

theorem find?_erase_eq_ite (m : SortedMap κ α) (k k' : κ) :
    (m.erase k).find? k' = if k' = k then none else m.find? k' := by
  simp only [find?_erase, Numbered.number_inj]

theorem contains_insert_iff {m : SortedMap κ α} {k k' : κ} {v : α} :
    (m.insert k v).contains k' = true ↔ k' = k ∨ m.contains k' = true := by
  rw [contains, find?_insert_eq_ite]
  split <;> simp_all [contains]

theorem contains_erase_iff {m : SortedMap κ α} {k k' : κ} :
    (m.erase k).contains k' = true ↔ k' ≠ k ∧ m.contains k' = true := by
  rw [contains, find?_erase_eq_ite]
  split <;> simp_all [contains]

/-- A new key joins the keys. -/
theorem keys_insert_perm {m : SortedMap κ α} {k : κ} (v : α) (h : m.contains k = false) :
    (m.insert k v).keys.Perm (k :: m.keys) := by
  have fresh : k ∉ m.keys := by rw [mem_keys_iff, h]; exact Bool.false_ne_true
  refine (List.perm_ext_iff_of_nodup (nodup_keys _) (List.nodup_cons.2 ⟨fresh, nodup_keys _⟩)).2
    fun k' => ?_
  rw [mem_keys_iff, contains_insert_iff, List.mem_cons, mem_keys_iff]

/-- A key that is removed leaves the others. -/
theorem keys_erase_perm {m : SortedMap κ α} {k : κ} (h : m.contains k = true) :
    m.keys.Perm (k :: (m.erase k).keys) := by
  have gone : k ∉ (m.erase k).keys := by
    rw [mem_keys_iff, contains_erase_iff]
    exact fun h => h.1 rfl
  refine (List.perm_ext_iff_of_nodup (nodup_keys _) (List.nodup_cons.2 ⟨gone, nodup_keys _⟩)).2
    fun k' => ?_
  rw [List.mem_cons, mem_keys_iff, mem_keys_iff, contains_erase_iff]
  by_cases hk : k' = k <;> simp_all

/-- Removing a key that is not there changes nothing. -/
theorem erase_eq_self {m : SortedMap κ α} {k : κ} (h : m.contains k = false) : m.erase k = m := by
  have absent : m.find? k = none := by rwa [contains, Option.isSome_eq_false_iff,
    Option.isNone_iff_eq_none] at h
  refine ext_find? fun k' => ?_
  rw [find?_erase_eq_ite]
  split
  · rename_i hk
    rw [hk, absent]
  · rfl

/-- A key that is removed leaves nothing of what was written there. -/
theorem erase_insert (m : SortedMap κ α) (k : κ) (v : α) : (m.insert k v).erase k = m.erase k := by
  refine ext_find? fun k' => ?_
  rw [find?_erase_eq_ite, find?_erase_eq_ite, find?_insert_eq_ite]
  split
  · rfl
  · rfl

/-- Writing what already stands there changes nothing. -/
theorem insert_eq_self {m : SortedMap κ α} {k : κ} {v : α} (h : m.find? k = some v) :
    m.insert k v = m := by
  refine ext_find? fun k' => ?_
  rw [find?_insert_eq_ite]
  split
  · rename_i hk
    rw [hk, h]
  · rfl

end Update

end SortedMap

end SampleBank
