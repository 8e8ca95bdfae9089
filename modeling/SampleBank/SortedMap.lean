/-!
# Maps in ascending key order

`SortedMap κ α` is an association list whose keys strictly ascend in the number that the
class `Numbered` gives them. The order is part of the type, so a map has exactly one
representation: `SortedMap.ext_find?` says that two maps are equal as soon as they answer
every lookup alike. The operations are described by their lookups alone: `find?_empty`,
`find?_insert`, `find?_erase` and `find?_filterMap`.
-/

namespace SampleBank

/-- A type whose values carry distinct numbers; maps order their keys by them. -/
class Numbered (κ : Type) where
  /-- The number of a value. -/
  number : κ → Nat
  /-- Different values have different numbers. -/
  number_injective : ∀ {a b : κ}, number a = number b → a = b

open Numbered (number)

section Entries

variable {κ α β : Type} [Numbered κ]

/-- The keys of an entry list strictly ascend. -/
def Ascending (l : List (κ × α)) : Prop :=
  l.Pairwise fun a b => number a.1 < number b.1

namespace Entries

/-- The value stored under a key. -/
def find? (k : κ) : List (κ × α) → Option α
  | [] => none
  | (k', v) :: rest => if number k = number k' then some v else find? k rest

/-- Puts a value under a key, in the place the order asks for. -/
def insert (k : κ) (v : α) : List (κ × α) → List (κ × α)
  | [] => [(k, v)]
  | (k', v') :: rest =>
    if number k < number k' then (k, v) :: (k', v') :: rest
    else if number k = number k' then (k, v) :: rest
    else (k', v') :: insert k v rest

/-- Removes a key. -/
def erase (k : κ) : List (κ × α) → List (κ × α)
  | [] => []
  | (k', v') :: rest => if number k = number k' then rest else (k', v') :: erase k rest

/-- Rewrites every value; a key whose value becomes nothing is removed. -/
def filterMap (f : κ → α → Option β) : List (κ × α) → List (κ × β)
  | [] => []
  | (k, v) :: rest =>
    match f k v with
    | none => filterMap f rest
    | some w => (k, w) :: filterMap f rest

/-- What an insertion adds is the new entry. -/
private theorem mem_insert {k : κ} {v : α} {e : κ × α} {l : List (κ × α)}
    (h : e ∈ insert k v l) : e = (k, v) ∨ e ∈ l := by
  induction l with
  | nil => simp_all [insert]
  | cons hd tl ih =>
    obtain ⟨k', v'⟩ := hd
    unfold insert at h
    split at h
    · simp_all
    · split at h <;> grind

/-- An entry is inserted where its number belongs. -/
theorem ascending_insert {k : κ} {v : α} {l : List (κ × α)} (h : Ascending l) :
    Ascending (insert k v l) := by
  induction l with
  | nil => simp [insert, Ascending]
  | cons hd tl ih =>
    obtain ⟨k', v'⟩ := hd
    have ⟨hd_lt, tl_asc⟩ := List.pairwise_cons.1 h
    unfold insert
    split
    · rename_i hlt
      refine List.pairwise_cons.2 ⟨fun b hb => ?_, h⟩
      rcases List.mem_cons.1 hb with rfl | hb
      · exact hlt
      · exact Nat.lt_trans hlt (hd_lt b hb)
    · split
      · rename_i heq
        exact List.pairwise_cons.2 ⟨fun b hb => heq ▸ hd_lt b hb, tl_asc⟩
      · refine List.pairwise_cons.2 ⟨fun b hb => ?_, ih tl_asc⟩
        rcases mem_insert hb with rfl | hb
        · change number k' < number k
          omega
        · exact hd_lt b hb

private theorem mem_of_mem_erase {k : κ} {e : κ × α} {l : List (κ × α)}
    (h : e ∈ erase k l) : e ∈ l := by
  induction l with
  | nil => simp [erase] at h
  | cons hd tl ih =>
    obtain ⟨k', v'⟩ := hd
    unfold erase at h
    split at h <;> grind

/-- Erasing an entry does not disturb the order. -/
theorem ascending_erase {k : κ} {l : List (κ × α)} (h : Ascending l) :
    Ascending (erase k l) := by
  induction l with
  | nil => simp [erase, Ascending]
  | cons hd tl ih =>
    obtain ⟨k', v'⟩ := hd
    have ⟨hd_lt, tl_asc⟩ := List.pairwise_cons.1 h
    unfold erase
    split
    · exact tl_asc
    · exact List.pairwise_cons.2 ⟨fun b hb => hd_lt b (mem_of_mem_erase hb), ih tl_asc⟩

omit [Numbered κ] in
private theorem exists_of_mem_filterMap {f : κ → α → Option β} {e : κ × β}
    {l : List (κ × α)} (h : e ∈ filterMap f l) : ∃ v, (e.1, v) ∈ l := by
  induction l with
  | nil => simp [filterMap] at h
  | cons hd tl ih =>
    obtain ⟨k', v'⟩ := hd
    unfold filterMap at h
    split at h
    · obtain ⟨v, hv⟩ := ih h
      exact ⟨v, List.mem_cons_of_mem _ hv⟩
    · rcases List.mem_cons.1 h with rfl | h
      · exact ⟨v', List.mem_cons_self⟩
      · obtain ⟨v, hv⟩ := ih h
        exact ⟨v, List.mem_cons_of_mem _ hv⟩

/-- Changing or dropping values does not disturb the order. -/
theorem ascending_filterMap {f : κ → α → Option β} {l : List (κ × α)} (h : Ascending l) :
    Ascending (filterMap f l) := by
  induction l with
  | nil => simp [filterMap, Ascending]
  | cons hd tl ih =>
    obtain ⟨k', v'⟩ := hd
    have ⟨hd_lt, tl_asc⟩ := List.pairwise_cons.1 h
    unfold filterMap
    split
    · exact ih tl_asc
    · refine List.pairwise_cons.2 ⟨fun b hb => ?_, ih tl_asc⟩
      obtain ⟨v, hv⟩ := exists_of_mem_filterMap hb
      exact hd_lt (b.1, v) hv

/-- Nothing is found under a key that lies below all others. -/
theorem find?_eq_none_of_lt {k : κ} {l : List (κ × α)}
    (h : ∀ e ∈ l, number k < number e.1) : find? k l = none := by
  induction l with
  | nil => rfl
  | cons hd tl ih =>
    obtain ⟨k', v'⟩ := hd
    have hk : number k < number k' := h (k', v') List.mem_cons_self
    unfold find?
    rw [if_neg (by omega)]
    exact ih fun e he => h e (List.mem_cons_of_mem _ he)

/-- In a list an entry is found that was inserted, and so are all others. -/
theorem find?_insert {k k' : κ} {v : α} {l : List (κ × α)} :
    find? k' (insert k v l) = if number k' = number k then some v else find? k' l := by
  induction l with
  | nil => rfl
  | cons hd tl ih =>
    obtain ⟨k'', v''⟩ := hd
    unfold insert
    split
    · rfl
    · split
      · simp only [find?]
        split <;> grind
      · simp only [find?, ih]
        split <;> grind

/-- In an ascending list a key that was erased is not found again. -/
theorem find?_erase {k k' : κ} {l : List (κ × α)} (h : Ascending l) :
    find? k' (erase k l) = if number k' = number k then none else find? k' l := by
  induction l with
  | nil => simp [erase, find?]
  | cons hd tl ih =>
    obtain ⟨k'', v''⟩ := hd
    have ⟨hd_lt, tl_asc⟩ := List.pairwise_cons.1 h
    unfold erase
    split
    · rename_i heq
      split
      · rename_i heq'
        exact find?_eq_none_of_lt fun e he => by
          have := hd_lt e he
          simp only at this
          omega
      · rename_i hne
        simp only [find?]
        rw [if_neg (by omega)]
    · simp only [find?, ih tl_asc]
      split <;> grind

/-- What is found in a list with other values is the other value, if there is one. -/
theorem find?_filterMap {f : κ → α → Option β} {k : κ} {l : List (κ × α)}
    (h : Ascending l) : find? k (filterMap f l) = (find? k l).bind (f k) := by
  induction l with
  | nil => rfl
  | cons hd tl ih =>
    obtain ⟨k', v'⟩ := hd
    have ⟨hd_lt, tl_asc⟩ := List.pairwise_cons.1 h
    unfold filterMap
    by_cases hk : number k = number k'
    · have hkk : k = k' := Numbered.number_injective hk
      subst hkk
      split
      · rename_i hf
        rw [ih tl_asc, find?_eq_none_of_lt fun e he => hd_lt e he]
        simp [find?, hf]
      · rename_i w hf
        simp [find?, hf]
    · split
      · rw [ih tl_asc]
        simp [find?, hk]
      · simp [find?, hk, ih tl_asc]

/-- Ascending entry lists that answer every lookup alike are equal. -/
theorem eq_of_find?_eq {l l' : List (κ × α)} (h : Ascending l) (h' : Ascending l')
    (hf : ∀ k, find? k l = find? k l') : l = l' := by
  induction l generalizing l' with
  | nil =>
    cases l' with
    | nil => rfl
    | cons hd tl =>
      have := hf hd.1
      simp [find?] at this
  | cons hd tl ih =>
    obtain ⟨k, v⟩ := hd
    cases l' with
    | nil =>
      have := hf k
      simp [find?] at this
    | cons hd' tl' =>
      obtain ⟨k', v'⟩ := hd'
      have ⟨hd_lt, tl_asc⟩ := List.pairwise_cons.1 h
      have ⟨hd_lt', tl_asc'⟩ := List.pairwise_cons.1 h'
      have none_tl : ∀ j : κ, number j ≤ number k → find? j tl = none := fun j hj =>
        find?_eq_none_of_lt fun e he => Nat.lt_of_le_of_lt hj (hd_lt e he)
      have none_tl' : ∀ j : κ, number j ≤ number k' → find? j tl' = none := fun j hj =>
        find?_eq_none_of_lt fun e he => Nat.lt_of_le_of_lt hj (hd_lt' e he)
      have key : k = k' := by
        apply Numbered.number_injective
        have h1 := hf k
        have h2 := hf k'
        simp only [find?] at h1 h2
        by_cases hlt : number k < number k'
        · rw [none_tl' k (Nat.le_of_lt hlt)] at h1
          simp [Nat.ne_of_lt hlt] at h1
        · by_cases hgt : number k' < number k
          · rw [none_tl k' (Nat.le_of_lt hgt)] at h2
            simp [Nat.ne_of_lt hgt] at h2
          · omega
      subst key
      have value : v = v' := by
        have := hf k
        simpa [find?] using this
      subst value
      congr 1
      apply ih tl_asc tl_asc'
      intro j
      by_cases hj : number j = number k
      · rw [none_tl j (Nat.le_of_eq hj), none_tl' j (Nat.le_of_eq hj)]
      · have := hf j
        simpa [find?, hj] using this

end Entries

end Entries

/-- A finite map whose entries stand in ascending key order. -/
structure SortedMap (κ α : Type) [Numbered κ] where
  /-- The entries in ascending key order. -/
  toList : List (κ × α)
  /-- The keys ascend. -/
  ascending : Ascending toList

namespace SortedMap

variable {κ α β : Type} [Numbered κ]

/-- The map without entries. -/
def empty : SortedMap κ α := ⟨[], List.Pairwise.nil⟩

instance : Inhabited (SortedMap κ α) := ⟨empty⟩

instance [DecidableEq κ] [DecidableEq α] : DecidableEq (SortedMap κ α) := fun m m' =>
  decidable_of_iff (m.toList = m'.toList)
    ⟨fun h => by cases m; cases m'; simp_all, fun h => h ▸ rfl⟩

/-- The value stored under a key. -/
def find? (m : SortedMap κ α) (k : κ) : Option α := Entries.find? k m.toList

/-- Whether a key has a value. -/
def contains (m : SortedMap κ α) (k : κ) : Bool := (m.find? k).isSome

/-- Puts a value under a key, in place of an earlier one. -/
def insert (m : SortedMap κ α) (k : κ) (v : α) : SortedMap κ α :=
  ⟨Entries.insert k v m.toList, Entries.ascending_insert m.ascending⟩

/-- Removes a key. -/
def erase (m : SortedMap κ α) (k : κ) : SortedMap κ α :=
  ⟨Entries.erase k m.toList, Entries.ascending_erase m.ascending⟩

/-- Rewrites every value; a key whose value becomes nothing is removed. -/
def filterMap (m : SortedMap κ α) (f : κ → α → Option β) : SortedMap κ β :=
  ⟨Entries.filterMap f m.toList, Entries.ascending_filterMap m.ascending⟩

/-- The keys in ascending order. -/
def keys (m : SortedMap κ α) : List κ := m.toList.map Prod.fst

/-- The values in the order of their keys. -/
def values (m : SortedMap κ α) : List α := m.toList.map Prod.snd

/-- The number of entries. -/
def size (m : SortedMap κ α) : Nat := m.toList.length

/-- Whether there is no entry. -/
def isEmpty (m : SortedMap κ α) : Bool := m.toList.isEmpty

/-! ### What a lookup finds -/

@[simp] theorem find?_empty (k : κ) : (empty : SortedMap κ α).find? k = none := rfl

/-- A map has what was inserted under a key, and under other keys what it had. -/
theorem find?_insert (m : SortedMap κ α) (k k' : κ) (v : α) :
    (m.insert k v).find? k' = if number k' = number k then some v else m.find? k' :=
  Entries.find?_insert

@[simp] theorem find?_insert_self (m : SortedMap κ α) (k : κ) (v : α) :
    (m.insert k v).find? k = some v := by simp [find?_insert]

/-- A map has nothing under a key that was erased, and under other keys what it had. -/
theorem find?_erase (m : SortedMap κ α) (k k' : κ) :
    (m.erase k).find? k' = if number k' = number k then none else m.find? k' :=
  Entries.find?_erase m.ascending

@[simp] theorem find?_erase_self (m : SortedMap κ α) (k : κ) : (m.erase k).find? k = none := by
  simp [find?_erase]

/-- A map with other values has them under the same keys. -/
theorem find?_filterMap (m : SortedMap κ α) (f : κ → α → Option β) (k : κ) :
    (m.filterMap f).find? k = (m.find? k).bind (f k) :=
  Entries.find?_filterMap m.ascending

/-- Two maps that answer every lookup alike are equal. -/
theorem ext_find? {m m' : SortedMap κ α} (h : ∀ k, m.find? k = m'.find? k) : m = m' := by
  cases m with
  | mk l hl =>
    cases m' with
    | mk l' hl' =>
      have : l = l' := Entries.eq_of_find?_eq hl hl' h
      subst this
      rfl

end SortedMap

end SampleBank
