import SampleBank.SortedMap

/-!
# MIDI numbers and handles

Keys and presets are bytes of which `0` to `127` are valid, banks are 14-bit numbers. A
`Program` is a bank and a preset; programs are ordered by bank first (`Program.number_lt_iff`).
Engines name what they own by handles, which count from zero and print as `#0`, `#1`, ….
-/

namespace SampleBank

/-- The highest valid key, root key or preset. -/
def maxKey : UInt8 := 127

/-- The highest valid bank, a 14-bit number. -/
def maxBank : UInt16 := 16383

/-- A bank and a preset: what a key map or an engine files key ranges under. -/
structure Program where
  bank : UInt16
  preset : UInt8
deriving DecidableEq

namespace Program

instance : Numbered Program where
  number p := p.bank.toNat * 256 + p.preset.toNat
  number_injective := by
    rintro ⟨b, p⟩ ⟨b', p'⟩ h
    simp only at h
    have := p.toNat_lt
    have := p'.toNat_lt
    have hb : b = b' := UInt16.toNat_inj.1 (by omega)
    have hp : p = p' := UInt8.toNat_inj.1 (by omega)
    rw [hb, hp]

theorem number_eq (p : Program) :
    Numbered.number p = p.bank.toNat * 256 + p.preset.toNat := rfl

/-- Programs ascend by bank, and by preset within a bank. -/
theorem number_lt_iff {p q : Program} :
    Numbered.number p < Numbered.number q ↔
      p.bank < q.bank ∨ p.bank = q.bank ∧ p.preset < q.preset := by
  have := p.preset.toNat_lt
  have := q.preset.toNat_lt
  rw [number_eq, number_eq, UInt16.lt_iff_toNat_lt, UInt8.lt_iff_toNat_lt, ← UInt16.toNat_inj]
  omega

/-- Whether bank and preset are valid MIDI numbers. -/
def Valid (p : Program) : Prop := p.bank ≤ maxBank ∧ p.preset ≤ maxKey

instance (p : Program) : Decidable p.Valid := inferInstanceAs (Decidable (_ ∧ _))

end Program

/-- The number by which an engine knows a loaded sample. -/
structure SampleHandle where
  id : Nat
deriving DecidableEq

instance : Numbered SampleHandle where
  number := SampleHandle.id
  number_injective := by rintro ⟨a⟩ ⟨b⟩ h; exact congrArg _ h

/-- The number by which an engine knows one of its synths. -/
structure SynthHandle where
  id : Nat
deriving DecidableEq

instance : Numbered SynthHandle where
  number := SynthHandle.id
  number_injective := by rintro ⟨a⟩ ⟨b⟩ h; exact congrArg _ h

/-- A handle prints as its number after `#`. -/
def SampleHandle.text (h : SampleHandle) : String := s!"#{h.id}"

@[inherit_doc SampleHandle.text]
def SynthHandle.text (h : SynthHandle) : String := s!"#{h.id}"

end SampleBank
