import SampleBank.Text.Utf8

/-!
# Text that is encoded and decoded

The decoder reads back every character that was encoded, whatever stands behind it
(`run_encodeChar`): the first byte says how many follow, and what it allows of the second one is
just what characters need. So every text survives (`decodeLossy_encode`, `decode?_encode`).
All bytes of a longer sequence are marked as such: a byte below 128 stands for itself wherever it is
found (`toNat_of_mem_encodeChar`).
-/

namespace SampleBank.Utf8

variable {left low high code k second third last : Nat} {rest : List UInt8}

/-! ### Bytes one by one -/

theorem toNat_ofNat {n : Nat} (h : n < 256) : (UInt8.ofNat n).toNat = n :=
  UInt8.toNat_ofNat_of_lt' h

theorem run_lead (k_lt : k < 256) (h : lead k = ([], .inside left low high code)) :
    run .between (UInt8.ofNat k :: rest) = run (.inside left low high code) rest := by
  rw [run, step, toNat_ofNat k_lt]
  simp only [h, List.nil_append]

/-- A byte inside a sequence that is not its last one. -/
theorem run_inside (k_lt : k < 64) (low_le : low ≤ 0x80 + k) (le_high : 0x80 + k ≤ high) :
    run (.inside (left + 2) low high code) (UInt8.ofNat (0x80 + k) :: rest) =
      run (.inside (left + 1) 0x80 0xBF (code * 64 + k)) rest := by
  rw [run, step, toNat_ofNat (by omega)]
  simp only [if_pos (And.intro low_le le_high), if_neg (show ¬left + 2 ≤ 1 by omega),
    List.nil_append, Nat.add_sub_cancel_left]
  rfl

/-- The last byte of a sequence. -/
theorem run_last (k_lt : k < 64) (low_le : low ≤ 0x80 + k) (le_high : 0x80 + k ≤ high) :
    run (.inside 1 low high code) (UInt8.ofNat (0x80 + k) :: rest) =
      some (Char.ofNat (code * 64 + k)) :: run .between rest := by
  rw [run, step, toNat_ofNat (by omega)]
  simp only [if_pos (And.intro low_le le_high), if_pos (Nat.le_refl 1), List.singleton_append,
    Nat.add_sub_cancel_left]

/-- A byte below 128 stands for the character of that number and is no part of another. -/
theorem toNat_of_mem_encodeChar {c : Char} {b : UInt8} (mem : b ∈ encodeChar c) :
    b.toNat = c.toNat ∨ 128 ≤ b.toNat := by
  have valid : c.toNat < 0xD800 ∨ 0xDFFF < c.toNat ∧ c.toNat < 0x110000 := c.valid
  have marked (n : Nat) (low : 128 ≤ n) (high : n < 256) : 128 ≤ (UInt8.ofNat n).toNat := by
    rwa [toNat_ofNat high]
  rw [encodeChar] at mem
  split at mem
  · obtain rfl := List.mem_singleton.1 mem
    exact .inl (toNat_ofNat (by omega))
  right
  split at mem
  · simp only [List.mem_cons, List.not_mem_nil, or_false] at mem
    rcases mem with rfl | rfl <;> exact marked _ (by omega) (by omega)
  split at mem
  · simp only [List.mem_cons, List.not_mem_nil, or_false] at mem
    rcases mem with rfl | rfl | rfl <;> exact marked _ (by omega) (by omega)
  · simp only [List.mem_cons, List.not_mem_nil, or_false] at mem
    rcases mem with rfl | rfl | rfl | rfl <;> exact marked _ (by omega) (by omega)

/-! ### Sequences -/

theorem run_two (two_le : 2 ≤ k) (k_lt : k < 32) (last_lt : last < 64) :
    run .between (UInt8.ofNat (0xC0 + k) :: UInt8.ofNat (0x80 + last) :: rest) =
      some (Char.ofNat (k * 64 + last)) :: run .between rest := by
  have first : lead (0xC0 + k) = ([], .inside 1 0x80 0xBF k) := by
    rw [lead, if_neg (by omega), if_neg (by omega), if_pos (by omega), Nat.add_sub_cancel_left]
  rw [run_lead (by omega) first, run_last last_lt (by omega) (by omega)]

/-- The first of three bytes leaves out what would need fewer bytes, and the surrogates. -/
theorem lead_three (k_lt : k < 16) (second_lt : second < 64) (long : k = 0 → 32 ≤ second)
    (no_surrogate : k = 13 → second < 32) :
    ∃ low high, lead (0xE0 + k) = ([], .inside 2 low high k) ∧ low ≤ 0x80 + second ∧
      0x80 + second ≤ high := by
  rw [lead, if_neg (by omega), if_neg (by omega), if_neg (by omega)]
  by_cases least : k = 0
  · subst least
    have := long rfl
    exact ⟨_, _, rfl, by omega, by omega⟩
  by_cases surrogate : k = 13
  · subst surrogate
    have := no_surrogate rfl
    exact ⟨_, _, rfl, by omega, by omega⟩
  rw [if_neg (by omega), if_neg (by omega), if_pos (by omega), Nat.add_sub_cancel_left]
  exact ⟨_, _, rfl, by omega, by omega⟩

theorem run_three (k_lt : k < 16) (second_lt : second < 64) (last_lt : last < 64)
    (long : k = 0 → 32 ≤ second) (no_surrogate : k = 13 → second < 32) :
    run .between (UInt8.ofNat (0xE0 + k) :: UInt8.ofNat (0x80 + second) ::
      UInt8.ofNat (0x80 + last) :: rest) =
        some (Char.ofNat ((k * 64 + second) * 64 + last)) :: run .between rest := by
  obtain ⟨low, high, first, low_le, le_high⟩ := lead_three k_lt second_lt long no_surrogate
  rw [run_lead (by omega) first, run_inside second_lt low_le le_high,
    run_last last_lt (by omega) (by omega)]

/-- The first of four bytes leaves out what would need fewer bytes, and what no character has. -/
theorem lead_four (k_le : k ≤ 4) (second_lt : second < 64) (long : k = 0 → 16 ≤ second)
    (valid : k = 4 → second < 16) :
    ∃ low high, lead (0xF0 + k) = ([], .inside 3 low high k) ∧ low ≤ 0x80 + second ∧
      0x80 + second ≤ high := by
  rw [lead, if_neg (by omega), if_neg (by omega), if_neg (by omega), if_neg (by omega),
    if_neg (by omega), if_neg (by omega)]
  by_cases least : k = 0
  · subst least
    have := long rfl
    exact ⟨_, _, rfl, by omega, by omega⟩
  rw [if_neg (by omega)]
  by_cases greatest : k = 4
  · subst greatest
    have := valid rfl
    exact ⟨_, _, rfl, by omega, by omega⟩
  rw [if_pos (by omega), Nat.add_sub_cancel_left]
  exact ⟨_, _, rfl, by omega, by omega⟩

theorem run_four (k_le : k ≤ 4) (second_lt : second < 64) (third_lt : third < 64)
    (last_lt : last < 64) (long : k = 0 → 16 ≤ second) (valid : k = 4 → second < 16) :
    run .between (UInt8.ofNat (0xF0 + k) :: UInt8.ofNat (0x80 + second) ::
      UInt8.ofNat (0x80 + third) :: UInt8.ofNat (0x80 + last) :: rest) =
        some (Char.ofNat (((k * 64 + second) * 64 + third) * 64 + last)) ::
          run .between rest := by
  obtain ⟨low, high, first, low_le, le_high⟩ := lead_four k_le second_lt long valid
  rw [run_lead (by omega) first, run_inside second_lt low_le le_high,
    run_inside third_lt (by omega) (by omega), run_last last_lt (by omega) (by omega)]

/-! ### Texts -/

/-- An encoded character is read back. -/
theorem run_encodeChar (c : Char) (rest : List UInt8) :
    run .between (encodeChar c ++ rest) = some c :: run .between rest := by
  have valid : c.toNat < 0xD800 ∨ 0xDFFF < c.toNat ∧ c.toNat < 0x110000 := c.valid
  have back (n : Nat) (h : n = c.toNat) : Char.ofNat n = c := by rw [h, Char.ofNat_toNat]
  rw [encodeChar]
  split
  · rename_i one
    rw [List.singleton_append, run, step, toNat_ofNat (by omega)]
    simp only [lead, one, if_true, back _ rfl, List.singleton_append]
  split
  · rw [List.cons_append, List.singleton_append, run_two (by omega) (by omega) (by omega),
      back _ (by omega)]
  split
  · rw [List.cons_append, List.cons_append, List.singleton_append,
      run_three (by omega) (by omega) (by omega) (by omega) (by omega), back _ (by omega)]
  · rw [List.cons_append, List.cons_append, List.cons_append, List.singleton_append,
      run_four (by omega) (by omega) (by omega) (by omega) (by omega) (by omega),
      back _ (by omega)]

theorem decode_encode (cs : List Char) : decode (encode cs) = cs.map some := by
  rw [decode, encode]
  induction cs with
  | nil => rfl
  | cons c cs ih => rw [List.flatMap_cons, run_encodeChar, ih, List.map_cons]

/-- Every text survives. -/
theorem decodeLossy_encode (cs : List Char) : decodeLossy (encode cs) = cs := by
  rw [decodeLossy, decode_encode, List.map_map]
  exact List.map_id' cs

/-- A text is valid throughout. -/
theorem decode?_encode (cs : List Char) : decode? (encode cs) = some cs := by
  rw [decode?, decode_encode, List.mapM_map]
  exact (List.mapM_pure (f := id)).trans (congrArg some (List.map_id cs))

end SampleBank.Utf8
