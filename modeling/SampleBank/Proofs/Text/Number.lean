import SampleBank.Text.Number

/-!
# Numerals that are read back

The digits that `Nat.toDigits` writes are the ones that `Numeral.natural?` reads
(`natural?_toDigits`), in whatever case the letters among them stand, and zeros in front of them
count for nothing (`digits?_replicate_zero`). A text that starts like no numeral is none
(`integer?_eq_none`, `decimal?_eq_none`).
-/

namespace SampleBank.Numeral

variable {base : Nat}

/-- Digits are read from left to right. -/
theorem digits?_append (first : List Char) {acc n : Nat} (h : digits? base acc first = some n)
    (second : List Char) : digits? base acc (first ++ second) = digits? base n second := by
  induction first generalizing acc with
  | nil =>
    cases h
    rfl
  | cons c first ih =>
    rw [digits?] at h
    rw [List.cons_append, digits?]
    cases read : digit? base c with
    | none => simp only [read, reduceCtorEq] at h
    | some d =>
      simp only [read] at h
      exact ih h

theorem digits?_singleton {c : Char} {d : Nat} (h : digit? base c = some d) (acc : Nat) :
    digits? base acc [c] = some (acc * base + d) := by
  rw [digits?, h]
  rfl

/-- The digits of every base, and the letters among them in both cases. -/
theorem digit?_digitChar :
    ∀ base < 17, ∀ d < base, digit? base d.digitChar = some d ∧
      digit? base d.digitChar.toUpper = some d := by
  decide

/-- Digits are read back in whatever way they are spelt, if each one is. -/
theorem digits?_map_toDigits (spell : Char → Char) (one_lt : 1 < base)
    (read : ∀ d < base, digit? base (spell d.digitChar) = some d) (n : Nat) :
    digits? base 0 ((Nat.toDigits base n).map spell) = some n := by
  induction n using Nat.strongRecOn with
  | ind n ih =>
    rw [Nat.toDigits_eq_if one_lt]
    split
    · rename_i small
      rw [List.map_singleton, digits?_singleton (read n small), Nat.zero_mul, Nat.zero_add]
    · rename_i large
      have rest := ih (n / base) (Nat.div_lt_self (by omega) one_lt)
      rw [List.map_append, digits?_append _ rest, List.map_singleton,
        digits?_singleton (read _ (Nat.mod_lt n (by omega))), Nat.mul_comm, Nat.div_add_mod]

/-- Zeros in front do not change a number. -/
theorem digits?_replicate_zero (zero : digit? base '0' = some 0) (k : Nat) (cs : List Char) :
    digits? base 0 (List.replicate k '0' ++ cs) = digits? base 0 cs := by
  induction k with
  | zero => rfl
  | succ k ih =>
    rw [List.replicate_succ, List.cons_append, digits?, zero]
    simp only [Nat.zero_mul, Nat.add_zero]
    exact ih

/-- A numeral is made of digits. -/
theorem digit?_isSome_of_mem {acc n : Nat} {cs : List Char} (h : digits? base acc cs = some n) :
    ∀ c ∈ cs, (digit? base c).isSome = true := by
  induction cs generalizing acc with
  | nil => exact fun _ mem => nomatch mem
  | cons c cs ih =>
    rw [digits?] at h
    split at h
    · rename_i d digit
      exact List.forall_mem_cons.2 ⟨by rw [digit]; rfl, ih h⟩
    · cases h

/-- A number is read back from its decimal digits. -/
theorem natural?_toDigits (n : Nat) : natural? 10 (Nat.toDigits 10 n) = some n := by
  have read := digits?_map_toDigits id (by decide)
    (fun d h => (digit?_digitChar 10 (by decide) d h).1) n
  rw [List.map_id] at read
  rw [natural?, if_neg Nat.toDigits_ne_nil, read]

theorem isDigit_of_mem_toDigits {c : Char} {n : Nat} (h : c ∈ Nat.toDigits 10 n) :
    isDigit c = true := by
  have digit := Nat.isDigit_of_mem_toDigits (by decide) (by decide) h
  rw [Char.isDigit, Bool.and_eq_true, decide_eq_true_iff, decide_eq_true_iff] at digit
  rw [isDigit, Bool.and_eq_true, decide_eq_true_iff, decide_eq_true_iff]
  exact digit

/-- Without a sign there is nothing to split off. -/
theorem splitSign_cons {c : Char} (minus : c ≠ '-') (plus : c ≠ '+') (rest : List Char) :
    splitSign (c :: rest) = (false, c :: rest) := by
  unfold splitSign
  split
  · rename_i same
    exact absurd (List.cons.inj same).1 minus
  · rename_i same
    exact absurd (List.cons.inj same).1 plus
  · rfl

theorem ne_of_isDigit {c d : Char} (h : isDigit c = true) (other : isDigit d = false) : c ≠ d := by
  rintro rfl
  rw [h] at other
  cases other

/-- A numeral in decimal digits is an integer. -/
theorem int64?_toDigits {n : Nat} (h : (n : Int) ≤ maxInt) :
    int64? 10 (Nat.toDigits 10 n) = some (n : Int) := by
  have unsigned : splitSign (Nat.toDigits 10 n) = (false, Nat.toDigits 10 n) := by
    obtain ⟨c, rest, digits⟩ := List.exists_cons_of_ne_nil (Nat.toDigits_ne_nil (n := n) (b := 10))
    have digit : isDigit c = true := isDigit_of_mem_toDigits (digits ▸ List.mem_cons_self)
    rw [digits]
    exact splitSign_cons (ne_of_isDigit digit (by decide)) (ne_of_isDigit digit (by decide)) rest
  have least : minInt ≤ (n : Int) := by
    rw [minInt]
    omega
  rw [int64?, integer?, unsigned]
  simp only [natural?_toDigits, Option.map_some, signed, Bool.false_eq_true, if_false]
  rw [Option.filter_some, if_pos (decide_eq_true ⟨least, h⟩)]

theorem digit?_ten_eq_none {c : Char} (h : isDigit c = false) : digit? 10 c = none := by
  rw [isDigit, Bool.and_eq_false_iff, decide_eq_false_iff_not, decide_eq_false_iff_not] at h
  rw [digit?, if_neg (fun both => h.elim (· both.1) (· both.2))]
  split
  · simp
  · split
    · simp
    · rfl

/-! ### Texts that are no numerals -/

section

variable {c : Char} {rest : List Char}

/-- A text that starts with neither a digit nor a sign is no integer. -/
theorem int64?_eq_none (digit : isDigit c = false) (minus : c ≠ '-') (plus : c ≠ '+') :
    int64? 10 (c :: rest) = none := by
  rw [int64?, integer?, splitSign_cons minus plus]
  simp only [natural?, reduceCtorEq, if_false, digits?, digit?_ten_eq_none digit]
  rfl

/-- A text that starts with neither a digit nor a sign nor a point is no decimal number. -/
theorem decimal?_eq_none (digit : isDigit c = false) (minus : c ≠ '-') (plus : c ≠ '+')
    (point : c ≠ '.') : decimal? (c :: rest) = none := by
  rw [decimal?, splitSign_cons minus plus]
  simp [digit, point, natural?]

end

end SampleBank.Numeral
