import SampleBank.Config.Fault

/-!
# Configuration files

A configuration is looked up by a name, which may lack the extension: the file of exactly that name
counts first, and else the first one that an extension leads to (`find`). The extension decides the
format.
-/

namespace SampleBank.Config

/-- The extensions of configuration files, in the order in which they are tried. -/
def extensions : List (String × Format) :=
  [("toml", .foreign .toml), ("json", .json), ("yaml", .yaml), ("yml", .yaml),
    ("ini", .foreign .ini), ("ron", .foreign .ron), ("json5", .foreign .json5)]

/-- The bytes of a file, if a path leads to one. -/
def fileAt? (fs : Files) (path : FilePath) : Option (List UInt8) :=
  match fs.open path with
  | .ok (.file bytes) => some bytes
  | _ => none

/-- The format of a file, by its extension. -/
def formatOf? (path : FilePath) : Option Format :=
  match path.extensionText? with
  | some ext => extensions.lookup (String.ofList ext)
  | none => none

/-- The paths that extensions of configuration files lead to from a name. -/
def extended (name : FilePath) : List (FilePath × Format) :=
  extensions.map fun (ext, format) => (name.addExtension ext, format)

/-- The file that a name leads to, with its format and what it holds. -/
def find (fs : Files) (name : FilePath) :
    Except ConfigError (FilePath × Format × List UInt8) :=
  match fileAt? fs name with
  | some bytes =>
    match formatOf? name with
    | some format => .ok (name, format, bytes)
    | none => .error (.unsupported (FilePath.join (.ofText fs.home) name))
  | none =>
    let found? := (extended name).findSome? fun (path, format) =>
      (fileAt? fs path).map (path, format, ·)
    match found? with
    | some found => .ok found
    | none => .error (.notFound name)

/-- The mark with which a text may start. -/
def byteOrderMark : List UInt8 := [0xEF, 0xBB, 0xBF]

/-- The text of a file, without a mark at its start. -/
def contents (bytes : List UInt8) : List Char :=
  Utf8.decodeLossy (if byteOrderMark.isPrefixOf bytes then bytes.drop 3 else bytes)

/-- Reads the configuration that a name leads to, and binds it to a type. -/
def load {α : Type} (bind : Value → Except Fault α) (fs : Files) (name : FilePath)
    (foreign : ForeignReader) : Except ConfigError α :=
  match find fs name with
  | .error e => .error e
  | .ok (path, format, bytes) =>
    let file := path.normalText
    match format.read? foreign (contents bytes) with
    | none => .error (.notParsed file)
    | some (.error fault) => .error (.document file fault)
    | some (.ok v) => (bind v).mapError (.value file)

end SampleBank.Config
