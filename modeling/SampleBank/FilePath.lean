import SampleBank.Text.Utf8

/-!
# File paths

A path is a byte string in which `/` separates the names. Repeated and trailing slashes and
the names `.` behind them carry no meaning (`FilePath.trimmed`); what remains decides the file
name (`fileName?`), its extension (`extension?`), the directory above it (`parent?`) and its
names one by one (`names`). `resolve` is the rule by which a file named in a configuration is
found next to that configuration.
-/

namespace SampleBank

/-- A path, as bytes; not every path is valid UTF-8. -/
structure FilePath where
  bytes : List UInt8
deriving DecidableEq

namespace FilePath

/-- The byte `/`. -/
def slash : UInt8 := 47

/-- The byte `.`. -/
def dot : UInt8 := 46

/-- The path that a text spells. -/
def ofText (s : String) : FilePath := ⟨Utf8.encode s.toList⟩

instance : Inhabited FilePath := ⟨⟨[]⟩⟩

/-- The path as text, with U+FFFD for each invalid part. -/
def text (p : FilePath) : String := String.ofList (Utf8.decodeLossy p.bytes)

/-- A path from the root of the file system. -/
def isAbsolute (p : FilePath) : Bool := p.bytes.head? = some slash

/-- A path that ends in a slash. -/
def endsInSlash (p : FilePath) : Bool := p.bytes.getLast? = some slash

/-- Puts one path behind another. An absolute one stands alone; otherwise one slash separates
them, unless the first is empty or already ends in one. -/
def join (base file : FilePath) : FilePath :=
  if file.isAbsolute then file
  else if base.bytes.isEmpty || base.endsInSlash then ⟨base.bytes ++ file.bytes⟩
  else ⟨base.bytes ++ slash :: file.bytes⟩

/-- Finds a file named in a configuration against the configuration's directory; absolute paths
are taken as they are. -/
def resolve (base : FilePath) (file : String) : FilePath :=
  let file := ofText file
  if file.isAbsolute then file else join base file

/-! ### Names -/

/-- The pieces between slashes, empty ones included. -/
def pieces : List UInt8 → List (List UInt8)
  | [] => [[]]
  | b :: rest =>
    if b = slash then [] :: pieces rest
    else
      match pieces rest with
      | [] => [[b]]
      | p :: ps => (b :: p) :: ps

/-- Drops meaningless ends, on the reversed bytes: slashes, and dots that stand alone behind a
slash. -/
def trimReversed : List UInt8 → List UInt8
  | [] => []
  | [b] => if b = slash then [] else [b]
  | b :: c :: rest =>
    if b = slash then trimReversed (c :: rest)
    else if b = dot ∧ c = slash then trimReversed (c :: rest)
    else b :: c :: rest

/-- The bytes of a path without trailing slashes and `/.`. -/
def trimmed (p : FilePath) : List UInt8 := (trimReversed p.bytes.reverse).reverse

/-- What stands before and after the last slash. -/
def splitLast (bytes : List UInt8) : List UInt8 × List UInt8 :=
  let name := (bytes.reverse.takeWhile (· ≠ slash)).reverse
  (bytes.take (bytes.length - name.length), name)

/-- The last name of a path; a path that ends in `..` has none, nor have `/`, `.` and the empty
path. -/
def fileName? (p : FilePath) : Option (List UInt8) :=
  let name := (splitLast p.trimmed).2
  if name = [] ∨ name = [dot] ∨ name = [dot, dot] then none else some name

/-- A file name as text, or a remark in its place if it has none or is not valid UTF-8. -/
def displayName (p : FilePath) : String :=
  match p.fileName?.bind Utf8.decode? with
  | some cs => String.ofList cs
  | none => "unreadable file name"

/-- Splits a file name at its last dot; a dot that starts the name starts no extension. -/
def splitExtension (name : List UInt8) : List UInt8 × Option (List UInt8) :=
  let ext := (name.reverse.takeWhile (· ≠ dot)).reverse
  let stem := name.take (name.length - ext.length - 1)
  if ext.length < name.length ∧ stem ≠ [] then (stem, some ext) else (name, none)

/-- The extension of the file name. -/
def extension? (p : FilePath) : Option (List UInt8) :=
  p.fileName?.bind fun name => (splitExtension name).2

/-- The extension as text, if it is valid UTF-8. -/
def extensionText? (p : FilePath) : Option (List Char) := p.extension?.bind Utf8.decode?

/-- The path with an extension put behind its file name; a path without a file name stays as it
is. -/
def addExtension (p : FilePath) (ext : String) : FilePath :=
  match p.fileName? with
  | none => p
  | some _ => ⟨p.trimmed ++ dot :: Utf8.encode ext.toList⟩

/-- The directory part of a path: nothing for the root and the empty path. -/
def parent? (p : FilePath) : Option FilePath :=
  if p.trimmed = [] then none
  else
    let before := (splitLast p.trimmed).1
    let above := trimmed ⟨before⟩
    if above = [] ∧ before ≠ [] then some ⟨[slash]⟩ else some ⟨above⟩

/-- The names of a path in order, without empty ones and `.`. -/
def names (p : FilePath) : List (List UInt8) :=
  (pieces p.bytes).filter fun n => n ≠ [] && n ≠ [dot]

/-- The path written with one slash between its names. -/
def normalText (p : FilePath) : String :=
  String.ofList (Utf8.decodeLossy (List.intercalate [slash] p.names))

end FilePath

end SampleBank
