import SampleBank.CommandLine

/-!
# The program

Looks at the files that a run may read, and prints what the run answers.
-/

namespace SampleBank

open CommandLine

/-- The place that a path names, whatever stands there. -/
def Files.placeOf (p : FilePath) : Place :=
  p.names.foldl
    (fun place name =>
      match place with
      | inner :: outer =>
        if name = Files.above ∧ inner ≠ Files.above ∧ inner ≠ Files.root then outer
        else name :: place
      | [] => [name])
    (Files.start p)

/-- Adds what stands at a place, with the directories that lead to it. -/
def Files.add (fs : Files) (p : FilePath) (node : FileNode) : Files :=
  let place := Files.placeOf p
  (fs.makeDirectories place.tail).put place node

/-- A path and the directories that it goes through, outermost first. -/
def FilePath.through (p : FilePath) : Nat → List FilePath
  | 0 => [p]
  | fuel + 1 =>
    match p.parent? with
    | some above => if above.bytes = [] then [p] else through above fuel ++ [p]
    | none => [p]

/-- The system's number for the refusal to read a directory. -/
def directoryCode : UInt32 := 21

/-- Adds what a path leads to, if anything does. -/
def lookAt (fs : Files) (p : FilePath) : IO Files := do
  try
    let bytes ← IO.FS.readBinFile p.text
    return fs.add p (.file bytes.toList)
  catch
    | .inappropriateType _ code _ =>
      return if code = directoryCode then fs.makeDirectories (Files.placeOf p) else fs
    | _ => return fs

/-- Adds what paths lead to, and what they go through. -/
def lookAtAll (fs : Files) (paths : List FilePath) : IO Files :=
  (paths.flatMap fun p => p.through p.bytes.length).foldlM lookAt fs

/-- The files that a run may read: those that may hold its settings, and those that the settings
name. -/
def gather (config : Option FilePath) : IO Files := do
  let home ← IO.currentDir
  let fs : Files := ⟨home.toString, []⟩
  let fs ← match config with
    | none => pure fs
    | some name => lookAtAll fs (name :: (Config.extended name).map (·.1))
  match settings fs config with
  | .error _ => return fs
  | .ok (s, base) =>
    let files := s.layout.soundFonts ++ s.layout.samples.map (·.file)
    lookAtAll fs (files.map base.resolve)

/-- What stands on standard input up to the end of the first line. -/
def readInput : IO Input := do
  try
    let line ← (← IO.getStdin).getLine
    return ⟨line.toUTF8.toList, false⟩
  catch _ => return ⟨[], true⟩

/-- Answers the request of a command line. -/
def answerArguments (args : List String) : IO UInt32 := do
  let request := Request.ofArguments args
  let files ← match request with
    | .run config _ => gather config
    | _ => pure ⟨"", []⟩
  IO.print (request.answer files).1
  (← IO.getStdout).flush
  let input ← match request with
    | .run _ true => readInput
    | _ => pure .empty
  if request = .invalid then IO.eprintln usageText
  return request.exitCode input

end SampleBank

/-- Runs the program. -/
def main (args : List String) : IO UInt32 := SampleBank.answerArguments args
