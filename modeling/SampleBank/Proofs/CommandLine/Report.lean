import SampleBank.CommandLine
import SampleBank.Proofs.Layout.Filling

/-!
# What a run reports

The report of a run takes its lines from two places. The line of a sample pairs what applying the
layout has answered with what the layout says, and the summary counts what the store and the key map
hold in the end. They tell the same story because the engine is new: every binding has brought one
sample and one range, and the samples are numbered as the layout lists them (`Rig.Filled`). Nothing
of it is said before the whole layout was applied, so a run that fails only names its engine and the
error, behind the log's record of it.

`answer_eq_expectedOutput` states the report without the machinery, from the settings alone. It is
not as plain as one may think (`answer_ne_plainAnswer`): the log writes to the same output, behind
`--` a wish not to wait is the name of a file, and waiting fails where there is no line to read.
-/

namespace SampleBank.CommandLine

open Config (ForeignReader)

variable {fs : Files} {base : FilePath} {engine : Engine} {s : Settings} {l : Layout}
  {log : Log} {foreign : ForeignReader}

/-! ### The prompt -/

/-- The arguments among which options are looked for. -/
def options (args : List String) : List String := args.takeWhile (· ≠ "--")

theorem options_cons {arg : String} (args : List String) (h : arg ≠ "--") :
    options (arg :: args) = arg :: options args := List.takeWhile_cons_of_pos (decide_eq_true h)

theorem Request.ofFile_eq_run {file : Option String} {config : Option FilePath} {wait waits : Bool}
    (request : Request.ofFile file waits = .run config wait) : wait = waits := by
  rw [ofFile] at request
  split at request
  · cases request
  · exact (Request.run.inj request).2.symm

/-- What an argument can be where a run is asked for: the end of the options, the wish not to wait,
or the file. -/
theorem Request.of_read_cons {file : Option String} {config : Option FilePath} {wait waits : Bool}
    {arg : String} {rest : List String}
    (request : Request.read file waits (arg :: rest) = .run config wait) :
    (arg = "--" ∧ wait = waits) ∨
      (arg = "--no-wait" ∧ Request.read file false rest = .run config wait) ∨
        (arg ≠ "--" ∧ arg ≠ "--no-wait" ∧
          Request.read (some arg) waits rest = .run config wait) := by
  unfold read at request
  by_cases no_name : file = some ""
  · rw [if_pos no_name] at request
    cases request
  rw [if_neg no_name] at request
  by_cases ends : arg = "--"
  · rw [if_pos ends] at request
    refine .inl ⟨ends, ?_⟩
    split at request
    · exact ofFile_eq_run request
    · exact ofFile_eq_run request
    · cases request
  rw [if_neg ends] at request
  by_cases no_wait : arg = "--no-wait"
  · rw [if_pos no_wait] at request
    split at request
    · exact .inr (.inl ⟨no_wait, request⟩)
    · cases request
  rw [if_neg no_wait] at request
  refine .inr (.inr ⟨ends, no_wait, ?_⟩)
  split at request
  · cases request
  split at request
  · cases request
  -- what is left is a file, unless it starts with a dash
  split at request
  · cases request
  · cases request
  · cases request
  · cases request
  · split at request
    · cases request
    · exact request

/-- A run waits unless an option says otherwise. -/
theorem Request.wait_iff {file : Option String} {config : Option FilePath} {wait waits : Bool}
    {args : List String} (request : Request.read file waits args = .run config wait) :
    wait = true ↔ waits = true ∧ "--no-wait" ∉ options args := by
  induction args generalizing file waits with
  | nil =>
    obtain rfl := ofFile_eq_run request
    exact (and_iff_left List.not_mem_nil).symm
  | cons arg rest ih =>
    rcases of_read_cons request with ⟨rfl, rfl⟩ | ⟨rfl, later⟩ | ⟨goes_on, other, later⟩
    · exact (and_iff_left List.not_mem_nil).symm
    · have never := (ih later).not.2 fun both => absurd both.1 Bool.false_ne_true
      exact iff_of_false never fun both => both.2 List.mem_cons_self
    · rw [ih later, options_cons rest goes_on, List.mem_cons, or_iff_right (Ne.symm other)]

/-! ### The lines -/

/-- The line of a sample that a layout names behind `i` others. -/
def placedLine (base : FilePath) (i : Nat) (b : SampleBinding) : String :=
  s!"Loaded #{i} ({(base.resolve b.file).displayName}, root key {b.rootKey.toNat}) -> " ++
    s!"bank {b.program.bank.toNat}, preset {b.program.preset.toNat}, " ++
      s!"keys {b.lokey.toNat}-{b.hikey.toNat}"

/-- The lines for a layout that was applied. -/
def layoutLines (base : FilePath) (l : Layout) : List String :=
  l.soundFonts.map (fun font => s!"Loaded SoundFont {font}") ++
    l.samples.mapIdx (placedLine base) ++
      [s!"{l.samples.length} samples bound over {l.samples.length} key ranges."]

/-- What is on standard output after a run with an engine that was built, when a layout was applied
or when that has failed. -/
def expectedOutput (log : Log) (engine : Engine) (base : FilePath) (l : Layout)
    (applied : Except Error (List Sample)) (prompt : Prop) [Decidable prompt] : List Entry :=
  [.logged log.preparing, .line s!"Engine: {engine.text}", .logged log.loading] ++
    (match applied with
      | .error e => [.logged (log.failure e.text), .line e.text]
      | .ok _ => (layoutLines base l).map .line) ++
    (if prompt then [.line waitText] else []) ++ [.logged log.closing]

/-- The line of a sample that a binding has brought reads like the binding. -/
theorem sampleLine_sampleAt (base : FilePath) (i : Nat) (b : SampleBinding) :
    sampleLine (b.sampleAt base i) b = placedLine base i b := by
  have written (text : String) : toString text = text := rfl
  -- the two texts put the same words together in different pieces
  have opened : "Loaded #" = "Loaded " ++ "#" := rfl
  have closed : ") -> " = ")" ++ " -> " := rfl
  have bound : " -> bank " = " -> " ++ "bank " := rfl
  unfold sampleLine placedLine Sample.text SampleHandle.text SampleBinding.sampleAt
  simp only [written, opened, closed, bound, String.append_assoc]

/-- The samples that a layout has brought are paired with its bindings. -/
theorem zipWith_sampleLine (base : FilePath) (bindings : List SampleBinding) :
    List.zipWith sampleLine (bindings.mapIdx fun i b => b.sampleAt base i) bindings =
      bindings.mapIdx (placedLine base) := by
  refine List.ext_getElem (by simp) fun i _ _ => ?_
  rw [List.getElem_zipWith, List.getElem_mapIdx, List.getElem_mapIdx, sampleLine_sampleAt]

/-- A synthesizer that holds a layout has as many samples and ranges as the layout has bindings. -/
theorem summary_eq {synth : Synth} (holds : synth.Holds base l) :
    summary log synth =
      [.line s!"{l.samples.length} samples bound over {l.samples.length} key ranges."] := by
  obtain ⟨bound, answered, length⟩ := holds.length_bindings
  rw [summary, holds.samples, answered]
  simp only [List.length_mapIdx, length]

/-- The report of a layout that is applied to an empty synthesizer is the expected one. -/
theorem loadReport_eq {r : Rig Engine} (filled : r.Filled base ⟨[], []⟩) :
    loadReport fs log base l r = .logged log.loading ::
      match (l.apply fs base r).1 with
      | .error e => [.logged (log.failure e.text), .line e.text]
      | .ok _ => (layoutLines base l).map .line := by
  rw [loadReport]
  rcases applied : l.apply fs base r with ⟨answer, r'⟩
  cases answer with
  | error e => rfl
  | ok samples =>
    obtain ⟨rfl, left⟩ := Layout.filled_apply filled applied
    simp only [layoutLines, zipWith_sampleLine, summary_eq left.holds, List.map_append,
      List.map_map]
    rfl

/-! ### Runs -/

/-- An engine that can be built is new, so a synthesizer can be opened on it, and is empty. -/
theorem exists_start_filled (built : s.engine.engine? = some engine) (base : FilePath) :
    ∃ r, Rig.start ⟨.new s.engine.overlap, engine⟩ = (.ok (), r) ∧ r.Filled base ⟨[], []⟩ := by
  rw [EngineSettings.engine?] at built
  split at built
  · obtain rfl := Option.some.inj built
    exact ⟨_, rfl, Rig.filled_fresh base s.engine.name s.engine.overlap⟩
  · split at built
    · obtain rfl := Option.some.inj built
      exact ⟨_, rfl, Rig.filled_freshRam base _ _ s.engine.overlap⟩
    · cases built

/-- A run with settings whose engine can be built opens a synthesizer on it and applies the layout.
If that succeeds it reports what was bound, and else the error alone, behind its record in the log.
It prompts unless an option says not to, and exits with 0 unless it waits in vain. -/
theorem answer_eq_expectedOutput {args : List String} {config : Option FilePath} {wait : Bool}
    (request : Request.ofArguments args = .run config wait)
    (found : settings fs config foreign = .ok (s, base))
    (built : s.engine.engine? = some engine) (log : Log) (input : Input) :
    (config = none → s = ⟨default, .demo⟩ ∧ base = .ofText ".") ∧
    ∃ r, Rig.start ⟨.new s.engine.overlap, engine⟩ = (.ok (), r) ∧
      (let applied := (s.layout.apply fs base r).1
        let output := expectedOutput log engine base s.layout applied ("--no-wait" ∉ options args)
        (Request.ofArguments args).answer fs log input foreign =
          (String.join (output.map Entry.text),
            if "--no-wait" ∉ options args ∧ ¬input.HasLine then 1 else 0)) ∧
      ∀ samples r', s.layout.apply fs base r = (.ok samples, r') →
        samples = s.layout.samples.mapIdx (fun i b => b.sampleAt base i) ∧
          r'.synth.Holds base s.layout := by
  obtain ⟨r, started, filled⟩ := exists_start_filled built base
  refine ⟨?_, r, started, ?_, fun samples r' applied => ?_⟩
  · rintro rfl
    cases found
    exact ⟨rfl, rfl⟩
  · have waits := Request.wait_iff request
    rw [eq_self, true_and] at waits
    have reported : report fs log foreign config =
        .logged log.preparing :: .line s!"Engine: {engine.text}" ::
          loadReport fs log base s.layout r := by
      rw [report, found]
      simp only [settingsReport, built, started]
    simp only [request, Request.answer, Request.output, Request.exitCode, reported,
      loadReport_eq filled, waits]
    rfl
  · obtain ⟨answer, left⟩ := Layout.filled_apply filled applied
    exact ⟨answer, left.holds⟩

/-- A mock engine, a SoundFont and two samples. -/
def mockSettings : Settings :=
  ⟨⟨"mock", 1024, 44100, .reject⟩,
    ⟨["b.sf2"], [⟨"a.wav", 60, ⟨0, 0⟩, 10, 20⟩, ⟨"c.wav", 62, ⟨1, 0⟩, 15, 30⟩]⟩⟩

/-- A directory with one file, of these lines. -/
def oneFile (name : String) (lines : List String) : Files :=
  ⟨"/", [([Utf8.encode name.toList],
    .file (Utf8.encode (String.join (lines.map (· ++ "\n"))).toList))]⟩

/-- A directory with a file for these settings. -/
def mockFiles : Files :=
  oneFile "mock.yml" ["engine:", "  name: mock", "layout:", "  soundfonts: [b.sf2]", "  samples:",
    "  - file: a.wav", "    root_key: 60", "    keys: [10, 20]",
    "  - file: c.wav", "    root_key: 62", "    keys: [15, 30]", "    bank: 1"]

/-- A log that lets errors through. -/
def errorLog : Log := ⟨fun e => s!"ERROR ramsynth: Smoke test failed err={e}\n", "", "", ""⟩

/-- They are read from there, and what they bind is reported sample by sample. -/
theorem answer_mock :
    settings mockFiles (some (.ofText "mock.yml")) = .ok (mockSettings, ⟨[]⟩) ∧
    (Request.ofArguments ["mock.yml"]).answer mockFiles errorLog ⟨[0x0A], false⟩ =
      (String.join (["Engine: mock (Mock)", "Loaded SoundFont b.sf2",
        "Loaded #0 (a.wav, root key 60) -> bank 0, preset 0, keys 10-20",
        "Loaded #1 (c.wav, root key 62) -> bank 1, preset 0, keys 15-30",
        "2 samples bound over 2 key ranges.", "Press Enter to exit..."].map (· ++ "\n")), 0) := by
  have request : Request.ofArguments ["mock.yml"] = .run (some (.ofText "mock.yml")) true := rfl
  have found : settings mockFiles (some (.ofText "mock.yml")) = .ok (mockSettings, ⟨[]⟩) := by
    decide +kernel
  obtain ⟨-, r, started, answered, -⟩ :=
    answer_eq_expectedOutput request found rfl errorLog ⟨[0x0A], false⟩
  obtain rfl := (Prod.mk.inj started).2
  exact ⟨found, answered.trans (by decide +kernel)⟩

/-- What a run would answer if nothing were logged, if a wish not to wait counted wherever it
stands, and if waiting could not fail. -/
def plainAnswer (args : List String) (engine : Engine) (base : FilePath) (l : Layout)
    (applied : Except Error (List Sample)) : String × UInt32 :=
  let lines := s!"Engine: {engine.text}" ::
    match applied with
    | .error e => [e.text]
    | .ok _ => layoutLines base l
  (String.join ((lines ++ if "--no-wait" ∈ args then [] else [waitText]).map (· ++ "\n")), 0)

/-- Settings with a mock engine and a sample whose root key is no key. -/
def unfitFiles : Files :=
  oneFile "unfit.yml" ["engine:", "  name: mock", "layout:", "  samples:",
    "  - file: a.wav", "    root_key: 200", "    keys: [10, 20]"]

/-- Settings with a mock engine and nothing to load, in a file named like an option. -/
def dashFiles : Files := oneFile "--no-wait.yaml" ["engine:", "  name: mock"]

/-- A run prompts though `--no-wait` is among its arguments, where it names a file. A failure is on
standard output twice, as a record of the log and as a line. And where the first line of standard
input is no text, the exit code is 1. -/
theorem answer_ne_plainAnswer :
    (Request.ofArguments ["--", "--no-wait"]).answer dashFiles ≠
        plainAnswer ["--", "--no-wait"] (.mock (.new "mock")) ⟨[]⟩ ⟨[], []⟩ (.ok []) ∧
      (Request.ofArguments ["unfit.yml", "--no-wait"]).answer unfitFiles errorLog ≠
          plainAnswer ["unfit.yml", "--no-wait"] (.mock (.new "mock")) ⟨[]⟩
            ⟨[], [⟨"a.wav", 200, ⟨0, 0⟩, 10, 20⟩]⟩
            (.error (.invalidArgument (.keyTooHigh .rootKey 200))) ∧
        (Request.ofArguments ["mock.yml"]).answer mockFiles .silent ⟨[0xFF], false⟩ ≠
          plainAnswer ["mock.yml"] (.mock (.new "mock")) ⟨[]⟩ mockSettings.layout (.ok []) := by
  have differs : ((Request.ofArguments ["mock.yml"]).answer mockFiles .silent
      ⟨[0xFF], false⟩).2 ≠ 0 := by
    decide +kernel
  exact ⟨by decide +kernel, by decide +kernel, fun same => differs (congrArg Prod.snd same)⟩

end SampleBank.CommandLine
