import SampleBank.Settings

/-!
# The command line

The program takes a settings file, loads its layout and reports what was loaded, line by line
(`CommandLine.report`). Without a file it loads the demo layout from the working directory. A
failure is logged, and then is a line of the report. The program waits until Enter is pressed unless
told not to (`Request.exitCode`).

The log writes to standard output too, between the lines. Which events it lets through is set from
outside and much of what it writes comes from libraries, so a run is given its `Log`.
-/

namespace SampleBank.CommandLine

open Config (ForeignReader)

/-- What a command line asks for. -/
inductive Request
  | version
  | help
  /-- The arguments are not understood. -/
  | invalid
  | run (config : Option FilePath) (wait : Bool)
deriving DecidableEq

/-- The request of a file, if one is given, which has to have a name. -/
def Request.ofFile (config : Option String) (wait : Bool) : Request :=
  if config = some "" then .invalid else .run (config.map .ofText) wait

/-- Reads arguments one by one, after a file and a wish not to wait may have been given. The first
argument that asks for something else or is not understood decides. -/
def Request.read (config : Option String) (wait : Bool) : List String → Request
  | [] => .ofFile config wait
  | arg :: rest =>
    if config = some "" then .invalid
    else if arg = "--" then
      match config, rest with
      | config, [] => .ofFile config wait
      | none, [file] => .ofFile (some file) wait
      | _, _ => .invalid
    else if arg = "--no-wait" then if wait then read config false rest else .invalid
    else if arg = "--version" then .version
    else if arg = "--help" then .help
    else
      match arg.toList with
      | '-' :: '-' :: _ => .invalid
      | '-' :: 'V' :: _ => .version
      | '-' :: 'h' :: _ => .help
      | '-' :: _ :: _ => .invalid
      | _ => if config.isSome then .invalid else read (some arg) wait rest

/-- What the arguments ask for. -/
def Request.ofArguments (args : List String) : Request := read none true args

/-- The name and the version of the program. -/
def versionText : String := "ramsynth 0.1.0"

/-- How the program is used. -/
def usageText : String := "Usage: ramsynth [OPTIONS] [CONFIG]"

/-- What is said before waiting. -/
def waitText : String := "Press Enter to exit..."

/-! ### What a run is given -/

/-- What the log writes in the course of a run. -/
structure Log where
  /-- The record of the program's own event, that it has failed with an error. It is empty where the
  log does not let errors through. -/
  failure : String → String
  /-- What else is logged until the engine is there. -/
  preparing : String
  /-- What else is logged while the synthesizer is opened and the layout applied. -/
  loading : String
  /-- What else is logged when the synthesizer is closed in the end. -/
  closing : String

/-- A log that lets nothing through. -/
def Log.silent : Log := ⟨fun _ => "", "", "", ""⟩

/-- Standard input: bytes, and whether reading on fails behind them instead of coming to an end. -/
structure Input where
  bytes : List UInt8
  broken : Bool
deriving DecidableEq

namespace Input

/-- An input that is at its end. -/
def empty : Input := ⟨[], false⟩

/-- The byte that ends a line. -/
def newline : UInt8 := 0x0A

/-- Whether a line can be read, which has to be a text. The last line may lack its end. -/
def HasLine (i : Input) : Prop :=
  (newline ∈ i.bytes ∨ i.broken = false) ∧
    Utf8.decode? (i.bytes.takeWhile (· ≠ newline)) ≠ none

instance (i : Input) : Decidable i.HasLine := inferInstanceAs (Decidable (_ ∧ _))

end Input

/-! ### Reports -/

/-- Something on standard output: a line of the report, or what the log writes in between. -/
inductive Entry
  | line (text : String)
  | logged (text : String)
deriving DecidableEq

/-- What is written. Records of the log end their lines themselves. -/
def Entry.text : Entry → String
  | .line text => text ++ "\n"
  | .logged text => text

/-- A failure is logged before it is reported. -/
def failed (log : Log) (error : String) : List Entry := [.logged (log.failure error), .line error]

/-- A sample that was loaded and bound. -/
def sampleLine (s : Sample) (b : SampleBinding) : String :=
  s!"Loaded {s.text} -> bank {b.program.bank.toNat}, preset {b.program.preset.toNat}, " ++
    s!"keys {b.lokey.toNat}-{b.hikey.toNat}"

/-- What a synthesizer holds. -/
def summary (log : Log) (s : Synth) : List Entry :=
  match s.samples, s.bindings with
  | .ok samples, .ok bindings =>
    [.line s!"{samples.length} samples bound over {bindings.length} key ranges."]
  | .error e, _ | _, .error e => failed log e.text

/-- Loads a layout and says what was loaded, or why not all of it was. -/
def loadReport (fs : Files) (log : Log) (base : FilePath) (l : Layout) (r : Rig Engine) :
    List Entry :=
  .logged log.loading ::
    match l.apply fs base r with
    | (.error e, _) => failed log e.text
    | (.ok samples, r) =>
      l.soundFonts.map (fun font => .line s!"Loaded SoundFont {font}") ++
        (List.zipWith sampleLine samples l.samples).map .line ++ summary log r.synth

/-- The report of a run with given settings; files are found against a directory. -/
def settingsReport (fs : Files) (log : Log) (base : FilePath) (s : Settings) : List Entry :=
  match s.engine.engine? with
  | none => .logged log.preparing :: failed log s.engine.unknownText
  | some engine =>
    .logged log.preparing :: .line s!"Engine: {engine.text}" ::
      match Rig.start ⟨.new s.engine.overlap, engine⟩ with
      | (.error e, _) => .logged log.loading :: failed log e.text
      | (.ok (), r) => loadReport fs log base s.layout r

/-- The settings of a run and the directory against which files are found. -/
def settings (fs : Files) (config : Option FilePath) (foreign : ForeignReader := .none) :
    Except ConfigError (Settings × FilePath) :=
  match config with
  | none => .ok (⟨default, .demo⟩, .ofText ".")
  | some path => (Settings.load fs path foreign).map (·, (path.parent?).getD default)

/-- What a run reports. -/
def report (fs : Files) (log : Log) (foreign : ForeignReader) (config : Option FilePath) :
    List Entry :=
  match settings fs config foreign with
  | .error e => .logged log.preparing :: failed log e.text
  | .ok (s, base) => settingsReport fs log base s

/-! ### Requests -/

namespace Request

/-- What a request puts on standard output. A run says before it waits that it does. -/
def output (fs : Files) (log : Log) (foreign : ForeignReader) : Request → List Entry
  | .version => [.line versionText]
  | .help => [.line usageText]
  | .invalid => []
  | .run config wait =>
    report fs log foreign config ++ (if wait then [.line waitText] else []) ++
      [.logged log.closing]

/-- The exit code of a request. A failure to load does not show in it, and a failure to wait does.
-/
def exitCode (input : Input) : Request → UInt32
  | .version | .help => 0
  | .invalid => 2
  | .run _ wait => if wait = true ∧ ¬input.HasLine then 1 else 0

/-- What a request prints, and its exit code. -/
def answer (fs : Files) (request : Request) (log : Log := .silent) (input : Input := .empty)
    (foreign : ForeignReader := .none) : String × UInt32 :=
  (String.join ((request.output fs log foreign).map Entry.text), request.exitCode input)

end Request

end SampleBank.CommandLine
