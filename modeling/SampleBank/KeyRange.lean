import SampleBank.Midi

/-!
# Key ranges

A key range is an interval of keys on which a sample plays. Its ends are ordered and valid
(`lokey_le_hikey`, `hikey_le_maxKey`), so it covers at least one key; `KeyRange.make?` says in
which order a request for one is refused. Two ranges overlap exactly when some key lies in both
(`KeyRange.overlaps_iff_exists_covers`).
-/

namespace SampleBank

/-- What a number between 0 and 127 is used for. -/
inductive KeyRole
  | key
  | rootKey
  | lowKey
  | highKey
  | preset
deriving DecidableEq

/-- What a number is called. -/
def KeyRole.text : KeyRole → String
  | .key => "key"
  | .rootKey => "root key"
  | .lowKey => "low key"
  | .highKey => "high key"
  | .preset => "preset"

/-- Why a key, a program or a pair of keys is refused. -/
inductive ArgumentError
  | keyTooHigh (role : KeyRole) (key : UInt8)
  | bankTooHigh (bank : UInt16)
  | reversedKeys (lokey hikey : UInt8)
  | described (text : String)
deriving DecidableEq

/-- What an argument error says. -/
def ArgumentError.text : ArgumentError → String
  | .keyTooHigh role key => s!"{role.text} {key.toNat} is outside of 0-{maxKey.toNat}"
  | .bankTooHigh bank => s!"bank {bank.toNat} is outside of 0-{maxBank.toNat}"
  | .reversedKeys lokey hikey => s!"low key {lokey.toNat} is above high key {hikey.toNat}"
  | .described text => text

/-- Refuses keys above `maxKey`. -/
def checkKey (role : KeyRole) (key : UInt8) : Except ArgumentError Unit :=
  if key ≤ maxKey then .ok () else .error (.keyTooHigh role key)

/-- Refuses programs whose bank or preset is no valid MIDI number, the bank first. -/
def checkProgram (p : Program) : Except ArgumentError Unit :=
  if p.bank ≤ maxBank then checkKey .preset p.preset else .error (.bankTooHigh p.bank)

/-- A program passes the check exactly when it is valid. -/
theorem checkProgram_eq_ok_iff {p : Program} : checkProgram p = .ok () ↔ p.Valid := by
  unfold checkProgram checkKey Program.Valid
  split
  · split <;> simp_all
  · rename_i h
    simp [h]

/-- An interval of keys, ends included, and the sample that plays on it. -/
structure KeyRange where
  lokey : UInt8
  hikey : UInt8
  sample : SampleHandle
  lokey_le_hikey : lokey ≤ hikey
  hikey_le_maxKey : hikey ≤ maxKey
deriving DecidableEq

namespace KeyRange

/-- The range between two keys. The low key is looked at first, then the high key, then their
order. -/
def make? (lokey hikey : UInt8) (sample : SampleHandle) : Except ArgumentError KeyRange :=
  if lokey ≤ maxKey then
    if hhi : hikey ≤ maxKey then
      if h : lokey ≤ hikey then .ok ⟨lokey, hikey, sample, h, hhi⟩
      else .error (.reversedKeys lokey hikey)
    else .error (.keyTooHigh .highKey hikey)
  else .error (.keyTooHigh .lowKey lokey)

/-- Whether a key lies in the range. -/
def covers (r : KeyRange) (key : UInt8) : Bool := r.lokey ≤ key && key ≤ r.hikey

/-- Whether two ranges share a key. -/
def overlaps (r s : KeyRange) : Bool := r.lokey ≤ s.hikey && s.lokey ≤ r.hikey

/-- A request is granted exactly when its keys are valid and in order. -/
theorem make?_eq_ok_iff {lokey hikey : UInt8} {sample : SampleHandle} {r : KeyRange} :
    make? lokey hikey sample = .ok r ↔
      r.lokey = lokey ∧ r.hikey = hikey ∧ r.sample = sample := by
  constructor
  · intro h
    unfold make? at h
    split at h
    · split at h
      · split at h
        · cases h
          exact ⟨rfl, rfl, rfl⟩
        · cases h
      · cases h
    · cases h
  · rintro ⟨rfl, rfl, rfl⟩
    have hhi := r.hikey_le_maxKey
    have hle := r.lokey_le_hikey
    have hlo : r.lokey ≤ maxKey := UInt8.le_trans hle hhi
    simp [make?, hlo, hhi, hle]

theorem covers_iff {r : KeyRange} {key : UInt8} :
    r.covers key = true ↔ r.lokey ≤ key ∧ key ≤ r.hikey := by
  simp [covers]

theorem overlaps_iff {r s : KeyRange} :
    r.overlaps s = true ↔ r.lokey ≤ s.hikey ∧ s.lokey ≤ r.hikey := by
  simp [overlaps]

theorem overlaps_comm (r s : KeyRange) : r.overlaps s = s.overlaps r := by
  simp [overlaps, Bool.and_comm]

/-- Ranges overlap exactly when some key lies in both. -/
theorem overlaps_iff_exists_covers {r s : KeyRange} :
    r.overlaps s = true ↔ ∃ key, r.covers key = true ∧ s.covers key = true := by
  have hr := r.lokey_le_hikey
  have hs := s.lokey_le_hikey
  simp only [overlaps_iff, covers_iff, UInt8.le_iff_toNat_le] at *
  constructor
  · rintro ⟨h, h'⟩
    by_cases hle : r.lokey.toNat ≤ s.lokey.toNat
    · exact ⟨s.lokey, by omega, by omega⟩
    · exact ⟨r.lokey, by omega, by omega⟩
  · rintro ⟨key, h, h'⟩
    omega

end KeyRange

end SampleBank
