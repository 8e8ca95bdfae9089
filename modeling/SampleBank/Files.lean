import SampleBank.FilePath

/-!
# The file tree

What the program sees of a file system: a directory it works in, and the files and directories
named from there. A path is walked name by name (`Files.walk`); every name but the last has to
stand in a directory, and a slash behind the last name asks for a directory too. `Files.open`
reads what a path leads to and `Files.write` makes or replaces a file.
-/

namespace SampleBank

/-- Why a path does not lead to a file. -/
inductive IoError
  | notFound
  | notADirectory
  | isADirectory
  | nameTooLong
  | nulInName
deriving DecidableEq

/-- The system's text for a failure. -/
def IoError.text : IoError → String
  | .notFound => "No such file or directory (os error 2)"
  | .notADirectory => "Not a directory (os error 20)"
  | .isADirectory => "Is a directory (os error 21)"
  | .nameTooLong => "File name too long (os error 36)"
  | .nulInName => "file name contained an unexpected NUL byte"

/-- A name within a directory. -/
abbrev FileName := List UInt8

/-- A point of the tree, as the names that lead to it, innermost first. The working directory is
`[]`; the directories above it are written with the name `..`, and the root with the name `/`. -/
abbrev Place := List FileName

/-- What can stand at a place. -/
inductive FileNode
  | file (bytes : List UInt8)
  | directory
deriving DecidableEq

/-- A file tree around a working directory. -/
structure Files where
  /-- The absolute path of the working directory, as messages show it. -/
  home : String
  /-- The files and directories other than the working directory and those above it. -/
  nodes : List (Place × FileNode)
deriving DecidableEq

namespace Files

/-- The name of the directory above. -/
def above : FileName := [FilePath.dot, FilePath.dot]

/-- The name that stands for the root of the file system. -/
def root : FileName := [FilePath.slash]

/-- The longest name that a directory holds. -/
def maxName : Nat := 255

/-- Paths as long as this are refused. -/
def maxPath : Nat := 4096

/-- What stands at a place. -/
def node? (fs : Files) (place : Place) : Option FileNode :=
  if place.all (fun n => n = above || n = root) then some .directory else fs.nodes.lookup place

/-- Puts a file or a directory at a place, in place of what stood there. -/
def put (fs : Files) (place : Place) (node : FileNode) : Files :=
  { fs with nodes := (place, node) :: fs.nodes.filter (·.1 ≠ place) }

/-- Makes the directories that lead to a place. -/
def makeDirectories (fs : Files) : Place → Files
  | [] => fs
  | name :: outer =>
    let fs := makeDirectories fs outer
    if (fs.node? (name :: outer)).isSome then fs else fs.put (name :: outer) .directory

/-! ### Walking -/

/-- Goes on to a name, which only a directory holds. -/
def enter (fs : Files) (place : Place) (name : FileName) : Except IoError Place :=
  match fs.node? place with
  | none => .error .notFound
  | some (.file _) => .error .notADirectory
  | some .directory =>
    if name = [] ∨ name = [FilePath.dot] then .ok place
    else if name = above then
      match place with
      | [] => .ok [above]
      | inner :: outer =>
        if inner = above then .ok (above :: place)
        else if inner = root then .ok place
        else .ok outer
    else if name.length > maxName then .error .nameTooLong
    else .ok (name :: place)

/-- Follows names one after the other. -/
def walk (fs : Files) : Place → List FileName → Except IoError Place
  | place, [] => .ok place
  | place, name :: rest =>
    match fs.enter place name with
    | .error e => .error e
    | .ok place => walk fs place rest

/-- Where a path starts. -/
def start (p : FilePath) : Place := if p.isAbsolute then [root] else []

/-- Paths that are refused before they are walked. -/
def refusal? (p : FilePath) : Option IoError :=
  if p.bytes.contains 0 then some .nulInName
  else if p.bytes = [] then some .notFound
  else if p.bytes.length ≥ maxPath then some .nameTooLong
  else none

/-- The file or directory that a path leads to. -/
def «open» (fs : Files) (p : FilePath) : Except IoError FileNode :=
  match refusal? p with
  | some e => .error e
  | none =>
    match fs.walk (start p) (FilePath.pieces p.bytes) with
    | .error e => .error e
    | .ok place =>
      match fs.node? place with
      | none => .error .notFound
      | some node => .ok node

/-- Whether a path leads to a file. -/
def isFile (fs : Files) (p : FilePath) : Bool :=
  match fs.open p with
  | .ok (.file _) => true
  | _ => false

/-- The bytes of the file that a path leads to. -/
def read (fs : Files) (p : FilePath) : Except IoError (List UInt8) :=
  match fs.open p with
  | .error e => .error e
  | .ok .directory => .error .isADirectory
  | .ok (.file bytes) => .ok bytes

/-! ### Writing -/

/-- Splits a path into the names that lead to its directory and the last name. A slash behind the
last name counts as part of it. -/
def splitTarget (p : FilePath) : List FileName × FileName :=
  let names := FilePath.pieces p.bytes
  let trailing := names.reverse.takeWhile (· = [])
  match (names.reverse.drop trailing.length) with
  | [] => ([], root)
  | last :: outer => (outer.reverse, if trailing = [] then last else last ++ root)

/-- Makes or replaces the file that a path names, in a directory that is already there. -/
def write (fs : Files) (p : FilePath) (bytes : List UInt8) : Except IoError Files :=
  match refusal? p with
  | some e => .error e
  | none =>
    let (outer, last) := splitTarget p
    match fs.walk (start p) outer with
    | .error e => .error e
    | .ok place =>
      match fs.enter place [FilePath.dot] with
      | .error e => .error e
      | .ok place =>
        if last.getLast? = some FilePath.slash ∨ last = [FilePath.dot] ∨ last = above then
          .error .isADirectory
        else if last.length > maxName then .error .nameTooLong
        else
          match fs.node? (last :: place) with
          | some .directory => .error .isADirectory
          | _ => .ok (fs.put (last :: place) (.file bytes))

end Files

end SampleBank
