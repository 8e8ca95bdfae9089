import Mathlib.Algebra.Group.Nat.Defs
import SampleBank.Audio.Bytes

/-!
# Bytes that are written and read

`Bytes.ofNumber` writes a number with its lowest byte first, and `Bytes.littleEndian` reads it back.
What a reader takes off the front of a file is said by `ByteReader.Reads`: with these bytes in front
of any others it returns this value and leaves the others. Such readers compose as their bytes do
(`Reads.bind`), so a whole header is read field by field. Of bytes that nobody has chosen less is
known; what all values have in common that a reader can return is said by `ByteReader.Yields`.

The data behind a header are cut into groups of a fixed size; cutting a list in two pieces does not
change the groups (`groups_add`).
-/

namespace SampleBank

namespace Bytes

/-! ### Numbers -/

/-- The lowest `size` bytes of a number, lowest first. -/
def ofNumber : Nat → Nat → List UInt8
  | 0, _ => []
  | size + 1, n => UInt8.ofNat n :: ofNumber size (n / 256)

@[simp] theorem length_ofNumber (size n : Nat) : (ofNumber size n).length = size := by
  induction size generalizing n with
  | zero => rfl
  | succ size ih => rw [ofNumber, List.length_cons, ih]

theorem littleEndian_ofNumber {size n : Nat} (h : n < 256 ^ size) :
    littleEndian (ofNumber size n) = n := by
  induction size generalizing n with
  | zero =>
    rw [Nat.pow_zero, Nat.lt_one_iff] at h
    rw [h]
    rfl
  | succ size ih =>
    have rest_lt : n / 256 < 256 ^ size := by
      rw [Nat.div_lt_iff_lt_mul (by decide)]
      rwa [Nat.pow_succ] at h
    rw [ofNumber, littleEndian, ih rest_lt, UInt8.toNat_ofNat']
    exact Nat.mod_add_div n 256

/-- Bytes spell a number that has room in as many. -/
theorem littleEndian_lt (bytes : List UInt8) : littleEndian bytes < 256 ^ bytes.length := by
  induction bytes with
  | nil => exact Nat.one_pos
  | cons b rest ih =>
    have := b.toNat_lt
    rw [littleEndian, List.length_cons, Nat.pow_succ]
    omega

/-! ### Groups -/

/-- The groups of a list are those of its front and those of what is behind it. -/
theorem groups_add (size first second : Nat) (bytes : List UInt8) :
    groups size (first + second) bytes =
      groups size first bytes ++ groups size second (bytes.drop (first * size)) := by
  induction first generalizing bytes with
  | zero => rw [Nat.zero_add, Nat.zero_mul, List.drop_zero, groups, List.nil_append]
  | succ first ih =>
    rw [Nat.succ_add, groups, ih, groups, List.cons_append, List.drop_drop, Nat.succ_mul,
      Nat.add_comm size]

/-- Groups do not depend on what stands behind them. -/
theorem groups_take {size count length : Nat} (enough : count * size ≤ length)
    (bytes : List UInt8) : groups size count (bytes.take length) = groups size count bytes := by
  induction count generalizing length bytes with
  | zero => rfl
  | succ count ih =>
    rw [Nat.succ_mul] at enough
    rw [groups, groups, List.take_take, Nat.min_eq_left (by omega), List.drop_take,
      ih (by omega)]

theorem groups_append {size count : Nat} {bytes : List UInt8} (enough : count * size ≤ bytes.length)
    (rest : List UInt8) : groups size count (bytes ++ rest) = groups size count bytes := by
  rw [← groups_take enough, List.take_left]

section Codes

variable {α : Type} {code : α → List UInt8} {size : Nat} {l : List α}

/-- Codes of one length add up. -/
theorem length_flatMap_code (length_code : ∀ a, (code a).length = size) :
    (l.flatMap code).length = l.length * size := by
  induction l with
  | nil => rw [List.flatMap_nil, List.length_nil, List.length_nil, Nat.zero_mul]
  | cons a later ih =>
    rw [List.flatMap_cons, List.length_append, ih, length_code, List.length_cons, Nat.succ_mul,
      Nat.add_comm]

/-- Codes of one length are the groups of what they spell. -/
theorem groups_flatMap_code (length_code : ∀ a, (code a).length = size) :
    groups size l.length (l.flatMap code) = l.map code := by
  induction l with
  | nil => rfl
  | cons a later ih =>
    rw [List.flatMap_cons, List.length_cons, groups, List.take_left' (length_code a),
      List.drop_left' (length_code a), ih, List.map_cons]

end Codes

theorem length_le_of_mem_groups {size count : Nat} {bytes group : List UInt8}
    (h : group ∈ groups size count bytes) : group.length ≤ size := by
  induction count generalizing bytes with
  | zero => cases h
  | succ count ih =>
    rcases List.mem_cons.1 h with rfl | h
    · exact List.length_take_le ..
    · exact ih h

end Bytes

/-! ### Readers -/

namespace ByteReader

variable {ε α β : Type}

/-- Whether a reader that finds these bytes takes them and returns this value, whatever stands
behind them. -/
def Reads (reader : ByteReader ε α) (front : List UInt8) (value : α) : Prop :=
  ∀ rest, reader (front ++ rest) = .ok (value, rest)

theorem reads_pure (value : α) : Reads (pure value : ByteReader ε α) [] value := fun _ => rfl

theorem reads_take {short : ε} {n : Nat} {front : List UInt8} (h : front.length = n) :
    Reads (take short n) front front := by
  intro rest
  subst h
  rw [take, Bytes.split?_append]

/-- One reader behind another one takes the bytes of both. -/
theorem Reads.bind {reader : ByteReader ε α} {next : α → ByteReader ε β} {front back : List UInt8}
    {value : α} {result : β} (first : Reads reader front value)
    (second : Reads (next value) back result) : Reads (reader >>= next) (front ++ back) result := by
  intro rest
  change (reader (front ++ back ++ rest) >>= fun p => next p.1 p.2) = .ok (result, rest)
  rw [List.append_assoc, first]
  exact second rest

/-- What the reader behind another one makes of the rest. -/
theorem Reads.bind_eq {reader : ByteReader ε α} {front : List UInt8} {value : α}
    (first : Reads reader front value) (next : α → ByteReader ε β) (rest : List UInt8) :
    (reader >>= next) (front ++ rest) = next value rest := by
  change (reader (front ++ rest) >>= fun p => next p.1 p.2) = next value rest
  rw [first]
  rfl

/-! ### What readers return -/

/-- Whether all that a reader returns has a property, whatever bytes it finds. -/
def Yields (reader : ByteReader ε α) (P : α → Prop) : Prop :=
  ∀ bytes value rest, reader bytes = .ok (value, rest) → P value

variable {reader other : ByteReader ε α} {next : α → ByteReader ε β} {P : α → Prop} {Q : β → Prop}

theorem yields_pure {value : α} (h : P value) : Yields (pure value : ByteReader ε α) P := by
  intro bytes returned rest read
  obtain ⟨rfl, -⟩ := Prod.mk.inj (Except.ok.inj read)
  exact h

theorem yields_fail {e : ε} : Yields (fail e) P := nofun

theorem yields_take {short : ε} {n : Nat} :
    Yields (take short n) fun taken => taken.length = n := by
  intro bytes taken rest read
  rw [take, Bytes.split?] at read
  split at read
  · rename_i found
    split at found
    · rename_i enough
      obtain rfl := Option.some.inj found
      obtain ⟨rfl, -⟩ := Prod.mk.inj (Except.ok.inj read)
      exact List.length_take_of_le enough
    · cases found
  · cases read

theorem Yields.bind (first : Yields reader P) (second : ∀ value, P value → Yields (next value) Q) :
    Yields (reader >>= next) Q := by
  intro bytes result rest read
  change (reader bytes >>= fun p => next p.1 p.2) = .ok (result, rest) at read
  cases front : reader bytes with
  | error e =>
    rw [front] at read
    cases read
  | ok found =>
    rw [front] at read
    exact second found.1 (first bytes found.1 found.2 front) found.2 result rest read

/-- Where it does not matter what is read first, only what comes behind is asked for. -/
theorem Yields.behind (second : ∀ value, Yields (next value) Q) : Yields (reader >>= next) Q :=
  Yields.bind (P := fun _ => True) (fun _ _ _ _ => trivial) fun value _ => second value

theorem Yields.mono {R : α → Prop} (yields : Yields reader P)
    (weaken : ∀ value, P value → R value) : Yields reader R := by
  intro bytes value rest read
  exact weaken value (yields bytes value rest read)

theorem Yields.ite {c : Prop} {_ : Decidable c} (pos : c → Yields reader P)
    (neg : ¬c → Yields other P) : Yields (if c then reader else other) P := by
  split
  · rename_i h
    exact pos h
  · rename_i h
    exact neg h

end ByteReader

end SampleBank
