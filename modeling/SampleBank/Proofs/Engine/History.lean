import SampleBank.Proofs.Engine.Steps

/-!
# What an engine has served

A `CallLog` is the list of the calls that were made to an engine, with its answers. Any call may
come at any time and with any arguments, stale and reversed ones included. `Engine.Serves` says
that an engine has come from another by the calls of a log. What holds of a new engine and is kept
by every step holds of all that it serves (`Engine.Serves.ram_induction`,
`Engine.Serves.mock_induction`), also if it is about the log: which synths are left, which handles
were given out, which SoundFonts were loaded and under which numbers.
-/

namespace SampleBank

open Session (runEngine)

/-- The calls that were made to an engine, each with the answer. -/
abbrev CallLog := List (EngineCommand × Outcome)

namespace CallLog

/-- The synth that a call has created. -/
def synthOf? : EngineCommand × Outcome → Option SynthHandle
  | (_, .nativeSynth h) => some h
  | _ => none

/-- The sample that a call has loaded. -/
def sampleOf? : EngineCommand × Outcome → Option SampleHandle
  | (_, .nativeSample h) => some h
  | _ => none

/-- The SoundFont that a call has loaded into a synth, with its number. -/
def fontOf? (native : SynthHandle) : EngineCommand × Outcome → Option (Nat × FilePath)
  | (.loadSoundFont h path, .font number) => if h = native then some (number, path) else none
  | _ => none

/-- What a call leaves of some synths, with the one that it has created. -/
def synthsAfter (before : List SynthHandle) : EngineCommand × Outcome → List SynthHandle
  | (_, .nativeSynth h) => before ++ [h]
  | (.destroySynth h, _) => before.filter (· ≠ h)
  | _ => before

/-- The handles of all synths that were ever created, in this order. -/
def synthsCreated (log : CallLog) : List SynthHandle := log.filterMap synthOf?

/-- The handles of all samples that were ever loaded, in this order. -/
def samplesLoaded (log : CallLog) : List SampleHandle := log.filterMap sampleOf?

/-- The SoundFonts that were loaded into a synth, in this order, with their numbers. -/
def fontsLoaded (native : SynthHandle) (log : CallLog) : List (Nat × FilePath) :=
  log.filterMap (fontOf? native)

/-- The synths that were created and not destroyed since. -/
def synthsLeft (log : CallLog) : List SynthHandle := log.foldl synthsAfter []

end CallLog

/-! ### One more call -/

namespace CallLog

variable {log : CallLog} {call : EngineCommand × Outcome} {native : SynthHandle}

private theorem filterMap_concat {α β : Type} (f : α → Option β) (l : List α) (a : α) :
    (l ++ [a]).filterMap f = l.filterMap f ++ (f a).toList := by
  rw [List.filterMap_append, List.filterMap_cons, List.filterMap_nil]
  cases f a with
  | none => rfl
  | some b => rfl

private theorem filterMap_concat_of_none {α β : Type} {f : α → Option β} {a : α}
    (none : f a = none) (l : List α) : (l ++ [a]).filterMap f = l.filterMap f := by
  rw [filterMap_concat, none]
  exact List.append_nil _

/-- A call adds the synth that it created, if it did. -/
theorem synthsCreated_concat :
    synthsCreated (log ++ [call]) = log.synthsCreated ++ (synthOf? call).toList :=
  filterMap_concat synthOf? log call

theorem synthsCreated_of_none (none : synthOf? call = none) :
    synthsCreated (log ++ [call]) = log.synthsCreated :=
  filterMap_concat_of_none none log

/-- A call adds the sample that it loaded, if it did. -/
theorem samplesLoaded_concat :
    samplesLoaded (log ++ [call]) = log.samplesLoaded ++ (sampleOf? call).toList :=
  filterMap_concat sampleOf? log call

theorem samplesLoaded_of_none (none : sampleOf? call = none) :
    samplesLoaded (log ++ [call]) = log.samplesLoaded :=
  filterMap_concat_of_none none log

/-- A call adds the SoundFont that it loaded into the synth, if it did. -/
theorem fontsLoaded_concat :
    fontsLoaded native (log ++ [call]) = log.fontsLoaded native ++ (fontOf? native call).toList :=
  filterMap_concat (fontOf? native) log call

/-- Only a call that loads a SoundFont answers with its number. -/
theorem fontsLoaded_of_not_font {command : EngineCommand} {answer : Outcome}
    (not_font : ∀ number, answer ≠ .font number) (native : SynthHandle) :
    fontsLoaded native (log ++ [(command, answer)]) = log.fontsLoaded native := by
  refine filterMap_concat_of_none ?_ log
  cases command with
  | loadSoundFont h path =>
    cases answer with
    | font number => exact absurd rfl (not_font number)
    | _ => rfl
  | _ => rfl

/-- Which synths are left is known from those left before and the last call. -/
theorem synthsLeft_concat : synthsLeft (log ++ [call]) = synthsAfter log.synthsLeft call := by
  rw [synthsLeft, List.foldl_append]
  rfl

/-- A call that is refused destroys no synth. -/
theorem synthsAfter_of_refused {before : List SynthHandle} {command : EngineCommand}
    (not_destroy : ∀ h, command ≠ .destroySynth h) (cause : EngineError) :
    synthsAfter before (command, .engineFailed cause) = before := by
  cases command with
  | destroySynth h => exact absurd rfl (not_destroy h)
  | _ => rfl

end CallLog

/-! ### Runs -/

namespace Engine

/-- An engine comes to be what it is by the calls of a log, whatever files there are at each. In
between a mock engine may be told what to refuse. -/
inductive Serves (start : Engine) : CallLog → Engine → Prop
  | start : start.Serves [] start
  | call {log : CallLog} {e : Engine} (fs : Files) (command : EngineCommand) :
    start.Serves log e →
      start.Serves (log ++ [(command, (runEngine fs e command).1)]) (runEngine fs e command).2
  | setRefusal {log : CallLog} {m : Mock} (call : MockCall) (on : Bool) :
    start.Serves log (.mock m) → start.Serves log (.mock (m.setRefusal call on))

/-- Makes calls one after the other and adds them to a log. -/
def serve (fs : Files) : List EngineCommand → CallLog × Engine → CallLog × Engine
  | [], served => served
  | command :: later, (log, e) =>
    let (answer, e) := runEngine fs e command
    serve fs later (log ++ [(command, answer)], e)

/-- Commands that are served in turn add to the log. -/
theorem Serves.serve {start : Engine} {log : CallLog} {e : Engine} (served : start.Serves log e)
    (fs : Files) (commands : List EngineCommand) :
    start.Serves (serve fs commands (log, e)).1 (serve fs commands (log, e)).2 := by
  induction commands generalizing log e with
  | nil => exact served
  | cons command later ih => exact ih (served.call fs command)

/-- What holds of a new RAM engine and is kept by its steps holds whatever it serves. -/
theorem Serves.ram_induction {P : CallLog → Ram → Prop} {maxSamples : Nat} {sampleRate : UInt32}
    {log : CallLog} {e : Engine} (new : P [] (.new maxSamples sampleRate))
    (kept : ∀ log r command answer r', P log r → r.Step command answer r' →
      P (log ++ [(command, answer)]) r')
    (served : (ram (.new maxSamples sampleRate)).Serves log e) : ∃ r, e = .ram r ∧ P log r := by
  induction served with
  | start => exact ⟨_, rfl, new⟩
  | call fs command _ ih =>
    obtain ⟨r, rfl, before⟩ := ih
    obtain ⟨r', after, step⟩ := Ram.step_runEngine fs r command
    exact ⟨r', after, kept _ r command _ r' before step⟩
  | setRefusal call on _ ih =>
    obtain ⟨r, eq, -⟩ := ih
    cases eq

/-- What holds of a new mock engine and is kept by its steps, and by whatever it is told to refuse,
holds whatever it serves. -/
theorem Serves.mock_induction {P : CallLog → Mock → Prop} {name : String} {log : CallLog}
    {e : Engine} (new : P [] (.new name))
    (kept : ∀ log m command answer m', P log m → m.Step command answer m' →
      P (log ++ [(command, answer)]) m')
    (told : ∀ log m call on, P log m → P log (m.setRefusal call on))
    (served : (mock (.new name)).Serves log e) : ∃ m, e = .mock m ∧ P log m := by
  induction served with
  | start => exact ⟨_, rfl, new⟩
  | call fs command _ ih =>
    obtain ⟨m, rfl, before⟩ := ih
    obtain ⟨m', after, step⟩ := Mock.step_runEngine fs m command
    exact ⟨m', after, kept _ m command _ m' before step⟩
  | setRefusal call on _ ih =>
    obtain ⟨m, eq, before⟩ := ih
    cases eq
    exact ⟨_, rfl, told _ _ call on before⟩

end Engine

end SampleBank
