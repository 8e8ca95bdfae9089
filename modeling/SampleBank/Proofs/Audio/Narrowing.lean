import Mathlib.Algebra.Group.Nat.Defs
import SampleBank.Audio.WaveFile
import SampleBank.Proofs.Audio.Bytes

/-!
# The top bits of samples

`topBits` is a sample times `2 ^ 16` divided by `2 ^ width`, rounded down. These numbers are in the
range of 16 bits for every width (`fits_topBits`), so that nothing wraps, neither the shift to the
left in words of 16 bits by which narrow samples are widened, nor the shift to the right in words of
32 bits that is cut to 16. The two ways in which the readers narrow a sample are therefore one
(`Coding.narrow_eq_shift`) for every number that bytes can spell (`WaveFile.fits_integerSample`).
-/

namespace SampleBank

open Bytes

/-! ### Signed numbers -/

/-- Whether a number fits into so many bits, one of which is for its sign. -/
def FitsSigned (width : Nat) (n : Int) : Prop :=
  -(Nat.pow 2 (width - 1) : Nat) ≤ n ∧ n < (Nat.pow 2 (width - 1) : Nat)

/-- The top 16 bits of a number of `width` bits, as a number. -/
def topBits (width : Nat) (n : Int) : Int := n * 0x10000 / Nat.pow 2 width

/-- The number of `width` bits whose top 16 bits are a word and whose others are zero. -/
def widen (width : Nat) (word : Int16) : Int := word.toInt * Nat.pow 2 (width - 16)

variable {width : Nat} {n : Int}

/-- Half of the numbers of a width are negative. -/
theorem pow_eq_double (pos : 0 < width) : Nat.pow 2 width = 2 * Nat.pow 2 (width - 1) := by
  obtain ⟨k, rfl⟩ := Nat.exists_eq_succ_of_ne_zero (Nat.ne_of_gt pos)
  exact Nat.pow_succ'

theorem width_pow_pos (width : Nat) : 0 < (Nat.pow 2 width : Int) :=
  Int.natCast_pos.2 (Nat.pow_pos (by decide))

/-- A number that fits is not changed by being taken as a signed one. -/
theorem bmod_eq_of_fits (pos : 0 < width) (fits : FitsSigned width n) :
    n.bmod (Nat.pow 2 width) = n := by
  obtain ⟨low, high⟩ := fits
  have double := pow_eq_double pos
  refine Int.bmod_eq_of_le ?_ ?_
  · omega
  · omega

/-- A number that fits into a width fits into any wider one. -/
theorem FitsSigned.mono {wider : Nat} (fits : FitsSigned width n) (le : width ≤ wider) :
    FitsSigned wider n := by
  obtain ⟨low, high⟩ := fits
  have more : Nat.pow 2 (width - 1) ≤ Nat.pow 2 (wider - 1) :=
    Nat.pow_le_pow_right (by decide) (Nat.sub_le_sub_right le 1)
  constructor
  · omega
  · omega

/-- The top 16 bits of a number fit into a word. -/
theorem fits_topBits (pos : 0 < width) (fits : FitsSigned width n) :
    FitsSigned 16 (topBits width n) := by
  obtain ⟨low, high⟩ := fits
  have double := pow_eq_double pos
  constructor
  · refine (Int.le_ediv_iff_mul_le (width_pow_pos width)).2 ?_
    change -32768 * (Nat.pow 2 width : Int) ≤ n * 0x10000
    omega
  · refine (Int.ediv_lt_iff_lt_mul (width_pow_pos width)).2 ?_
    change n * 0x10000 < 32768 * (Nat.pow 2 width : Int)
    omega

/-- Up to 16 bits the top ones are the number shifted to the left. -/
theorem topBits_of_le (le : width ≤ 16) : topBits width n = n * Nat.pow 2 (16 - width) := by
  have scale : (0x10000 : Nat) = Nat.pow 2 (16 - width) * Nat.pow 2 width := by
    simp only [Nat.pow_eq]
    rw [← Nat.pow_add, Nat.sub_add_cancel le]
  rw [topBits, show (0x10000 : Int) = (0x10000 : Nat) from rfl, scale, Int.natCast_mul,
    ← Int.mul_assoc, Int.mul_ediv_cancel _ (Int.ne_of_gt (width_pow_pos _))]

/-- From 16 bits on the top ones are the number shifted to the right. -/
theorem topBits_of_ge (ge : 16 ≤ width) : topBits width n = n / Nat.pow 2 (width - 16) := by
  have scale : Nat.pow 2 width = 0x10000 * Nat.pow 2 (width - 16) := by
    simp only [Nat.pow_eq]
    rw [show 0x10000 = 2 ^ 16 from rfl, ← Nat.pow_add, Nat.add_sub_cancel' ge]
  rw [topBits, scale, Int.natCast_mul, Int.mul_comm n]
  exact Int.mul_ediv_mul_of_pos _ _ (by decide)

/-- What a widened word adds is cut off again. -/
theorem topBits_widen (ge : 16 ≤ width) (word : Int16) :
    topBits width (widen width word) = word.toInt := by
  rw [topBits_of_ge ge, widen, Int.mul_ediv_cancel _ (Int.ne_of_gt (width_pow_pos _))]

/-- A word that is widened fits into the wider width. -/
theorem fits_widen (ge : 16 ≤ width) (word : Int16) : FitsSigned width (widen width word) := by
  have pos := width_pow_pos (width - 16)
  have low := Int.mul_le_mul_of_nonneg_right word.le_toInt (Int.le_of_lt pos)
  have high := Int.mul_lt_mul_of_pos_right word.toInt_lt pos
  have scale : Nat.pow 2 (width - 1) = 0x8000 * Nat.pow 2 (width - 16) := by
    simp only [Nat.pow_eq]
    rw [show 0x8000 = 2 ^ 15 from rfl, ← Nat.pow_add]
    congr 1
    omega
  constructor
  · rw [scale, widen]
    omega
  · rw [scale, widen]
    omega

namespace Coding

/-- A sample is not wrapped when it is narrowed. -/
theorem toInt_narrow (pos : 0 < width) (fits : FitsSigned width n) :
    (narrow width n).toInt = topBits width n := by
  obtain ⟨low, high⟩ := fits_topBits pos fits
  exact Int16.toInt_ofInt_of_le low high

/-- Narrowing takes a widened word back to what it was. -/
theorem narrow_widen (ge : 16 ≤ width) (word : Int16) : narrow width (widen width word) = word :=
  (congrArg Int16.ofInt (topBits_widen ge word)).trans word.ofInt_toInt

/-- A shift to the left wraps only where the result has no room. -/
theorem toInt_shiftLeft (n : Int) (k : Nat) :
    (BitVec.ofInt 16 n <<< k).toInt = (n * Nat.pow 2 k).bmod (Nat.pow 2 16) := by
  have rest_nonneg : 0 ≤ n % (2 ^ 16 : Nat) := Int.emod_nonneg _ (by decide)
  rw [BitVec.toInt_shiftLeft, Nat.shiftLeft_eq, Int.natCast_mul, BitVec.toNat_ofInt,
    Int.toNat_of_nonneg rest_nonneg]
  exact Int.emod_mul_bmod ..

/-- A cut to 16 bits wraps only where the result of the shift has no room. -/
theorem toInt_shiftRight (fits : FitsSigned 32 n) (k : Nat) :
    (((BitVec.ofInt 32 n).sshiftRight k).setWidth 16).toInt =
      (n / Nat.pow 2 k).bmod (Nat.pow 2 16) := by
  have word : (BitVec.ofInt 32 n).toInt = n := by
    rw [BitVec.toInt_ofInt]
    exact bmod_eq_of_fits (by decide) fits
  have shifted : ((BitVec.ofInt 32 n).sshiftRight k).toInt = n / Nat.pow 2 k := by
    rw [BitVec.toInt_sshiftRight, word, Int.shiftRight_eq_div_pow]
    rfl
  rw [← shifted, BitVec.toInt_setWidth, BitVec.toInt_eq_toNat_bmod]
  exact (Int.bmod_bmod_of_dvd (by decide)).symm

/-- Words have room for all that happens when a sample is narrowed. -/
theorem narrow_eq_shift (pos : 0 < width) (le : width ≤ 32) (fits : FitsSigned width n) :
    narrow width n = shift width n := by
  have room := bmod_eq_of_fits (by decide) (fits_topBits pos fits)
  -- either shift gives the top bits wrapped to a word, and these have room in it
  apply Int16.toInt_inj.1
  rw [toInt_narrow pos fits, shift, ← room]
  split
  · rename_i narrow
    rw [topBits_of_le narrow, Int16.toInt_ofBitVec, toInt_shiftLeft]
  · rename_i wide
    rw [topBits_of_ge (Nat.le_of_not_le wide), Int16.toInt_ofBitVec,
      toInt_shiftRight (fits.mono le)]

end Coding

/-! ### Numbers that bytes spell -/

/-- A number that is taken as a signed one of some width fits into that width. -/
theorem fits_signed (pos : 0 < width) (m : Nat) : FitsSigned width (signed width m) := by
  have double := pow_eq_double pos
  have low : -(Nat.pow 2 width / 2 : Int) ≤ signed width m := Int.le_bmod (Nat.pow_pos (by decide))
  have high : signed width m < (Nat.pow 2 width + 1) / 2 := Int.bmod_lt (Nat.pow_pos (by decide))
  constructor
  · omega
  · omega

/-- Whatever bytes stand for a sample, it fits into its width. -/
theorem WaveFile.fits_integerSample (pos : 0 < width) {group : List UInt8}
    (short : 8 * group.length ≤ width) : FitsSigned width (integerSample width group) := by
  unfold integerSample
  split
  · rename_i byte
    have length_le : group.length ≤ 1 := by omega
    have number_lt : littleEndian group < 256 :=
      Nat.lt_of_lt_of_le (littleEndian_lt group) (Nat.pow_le_pow_right (by decide) length_le)
    rw [byte]
    constructor
    · change -128 ≤ (littleEndian group : Int) - 128
      omega
    · change (littleEndian group : Int) - 128 < 128
      omega
  · exact fits_signed pos _

end SampleBank
