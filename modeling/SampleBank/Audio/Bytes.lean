/-!
# Numbers in bytes

Numbers as audio files store them, and a reader that takes bytes off the front of a file. A
reader either returns a value and the bytes that follow it, or fails; running out of bytes is
a failure that each reader names for itself.
-/

namespace SampleBank

/-- The order in which the bytes of a number stand: lowest first or highest first. -/
inductive ByteOrder
  | little
  | big
deriving DecidableEq

namespace Bytes

/-- The number whose bytes stand lowest first. -/
def littleEndian : List UInt8 → Nat
  | [] => 0
  | b :: rest => b.toNat + 256 * littleEndian rest

/-- The number that bytes spell. -/
def number : ByteOrder → List UInt8 → Nat
  | .little, bytes => littleEndian bytes
  | .big, bytes => littleEndian bytes.reverse

/-- A number of `width` bits read as a signed one. -/
def signed (width n : Nat) : Int := Int.bmod n (Nat.pow 2 width)

/-- The bytes of an ASCII name. -/
def ascii (name : String) : List UInt8 := name.toList.map fun c => UInt8.ofNat c.toNat

/-- Splits off the first `n` bytes, if there are so many. -/
def split? (n : Nat) (bytes : List UInt8) : Option (List UInt8 × List UInt8) :=
  if n ≤ bytes.length then some (bytes.take n, bytes.drop n) else none

theorem split?_append (front rest : List UInt8) :
    split? front.length (front ++ rest) = some (front, rest) := by
  simp [split?]

/-- The first `count` groups of `size` bytes. -/
def groups (size : Nat) : Nat → List UInt8 → List (List UInt8)
  | 0, _ => []
  | count + 1, bytes => bytes.take size :: groups size count (bytes.drop size)

@[simp] theorem length_groups (size count : Nat) (bytes : List UInt8) :
    (groups size count bytes).length = count := by
  induction count generalizing bytes with
  | zero => rfl
  | succ count ih => simp [groups, ih]

end Bytes

/-- A computation that takes bytes off the front of a file. -/
abbrev ByteReader (ε α : Type) := StateT (List UInt8) (Except ε) α

namespace ByteReader

variable {ε : Type}

/-- The next `n` bytes; `short` is the failure if there are fewer. -/
def take (short : ε) (n : Nat) : ByteReader ε (List UInt8) := fun bytes =>
  match Bytes.split? n bytes with
  | some taken => .ok taken
  | none => .error short

/-- Fails. -/
def fail {α : Type} (e : ε) : ByteReader ε α := fun _ => .error e

end ByteReader

end SampleBank
