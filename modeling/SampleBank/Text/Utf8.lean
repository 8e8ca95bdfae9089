/-!
# UTF-8

Encoding, and a decoder that survives invalid bytes. The decoder is a small machine,
`Utf8.step`, run over the bytes: it reports each character, and one gap for each maximal part
that begins no character. `decode?` refuses gaps, `decodeLossy` shows each as U+FFFD.

The machine never looks ahead: a byte that cannot continue the sequence under way closes that
sequence as a gap and is then read afresh.
-/

namespace SampleBank.Utf8

/-- The one to four bytes of a character. -/
def encodeChar (c : Char) : List UInt8 :=
  let n := c.toNat
  if n < 0x80 then [UInt8.ofNat n]
  else if n < 0x800 then [UInt8.ofNat (0xC0 + n / 64), UInt8.ofNat (0x80 + n % 64)]
  else if n < 0x10000 then
    [UInt8.ofNat (0xE0 + n / 4096), UInt8.ofNat (0x80 + n / 64 % 64),
      UInt8.ofNat (0x80 + n % 64)]
  else
    [UInt8.ofNat (0xF0 + n / 262144), UInt8.ofNat (0x80 + n / 4096 % 64),
      UInt8.ofNat (0x80 + n / 64 % 64), UInt8.ofNat (0x80 + n % 64)]

/-- The bytes of a text. -/
def encode (cs : List Char) : List UInt8 := cs.flatMap encodeChar

/-- Where the decoder stands: between characters, or inside a sequence that needs `left` more
bytes, of which the next must lie between `low` and `high`; `code` holds the bits so far. -/
inductive State
  | between
  | inside (left low high code : Nat)
deriving DecidableEq

/-- Reads a byte that begins a character, or is a gap by itself. -/
def lead (n : Nat) : List (Option Char) × State :=
  if n < 0x80 then ([some (Char.ofNat n)], .between)
  else if n < 0xC2 then ([none], .between)
  else if n < 0xE0 then ([], .inside 1 0x80 0xBF (n - 0xC0))
  else if n = 0xE0 then ([], .inside 2 0xA0 0xBF 0)
  else if n = 0xED then ([], .inside 2 0x80 0x9F 0xD)
  else if n < 0xF0 then ([], .inside 2 0x80 0xBF (n - 0xE0))
  else if n = 0xF0 then ([], .inside 3 0x90 0xBF 0)
  else if n < 0xF4 then ([], .inside 3 0x80 0xBF (n - 0xF0))
  else if n = 0xF4 then ([], .inside 3 0x80 0x8F 4)
  else ([none], .between)

/-- Reads one byte: what is reported, and where the decoder stands afterwards. -/
def step (s : State) (b : UInt8) : List (Option Char) × State :=
  let n := b.toNat
  match s with
  | .between => lead n
  | .inside left low high code =>
    if low ≤ n ∧ n ≤ high then
      let code := code * 64 + (n - 0x80)
      if left ≤ 1 then ([some (Char.ofNat code)], .between)
      else ([], .inside (left - 1) 0x80 0xBF code)
    else
      let (out, next) := lead n
      (none :: out, next)

/-- Runs the decoder; a sequence that the end cuts off is a gap. -/
def run : State → List UInt8 → List (Option Char)
  | .between, [] => []
  | .inside .., [] => [none]
  | s, b :: rest =>
    let (out, next) := step s b
    out ++ run next rest

/-- The characters of a byte list, with nothing in the place of each invalid part. -/
def decode (bytes : List UInt8) : List (Option Char) := run .between bytes

/-- The text of a byte list that is valid throughout. -/
def decode? (bytes : List UInt8) : Option (List Char) := (decode bytes).mapM id

/-- The text of a byte list, with U+FFFD in the place of each invalid part. -/
def decodeLossy (bytes : List UInt8) : List Char :=
  (decode bytes).map fun c => c.getD (Char.ofNat 0xFFFD)

end SampleBank.Utf8
