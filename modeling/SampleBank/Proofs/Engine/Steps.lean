import SampleBank.Proofs.Engine.Calls
import SampleBank.Session

/-!
# What a call can do to an engine

`Ram.Step` and `Mock.Step` list all that a call can do to each of the engines, with what it has
found before and what it answers: a call that is refused or that finds nothing to do leaves the
engine as it was. Every call takes one of these steps, whatever its arguments are
(`Ram.step_runEngine`, `Mock.step_runEngine`), so what holds of an engine however it is called is
shown step by step.
-/

namespace SampleBank

open Session (runEngine)

/-- A call of one of the two engines takes a step if it does so when it succeeds; a refusal leaves
the engine as it was. -/
private theorem exists_step_of_call {α σ : Type} {kind : σ → Engine} {state : σ}
    {answer : α → Outcome} (step : Outcome → σ → Prop) (call : Except EngineError α × σ)
    (refuse : ∀ cause, step (.engineFailed cause) state)
    (kept : ∀ {cause state'}, call = (.error cause, state') → state' = state)
    (agreed : ∀ {a state'}, call = (.ok a, state') → step (answer a) state') :
    ∃ state', ((call.map id kind).map (Session.engineOutcome answer) id).2 = kind state' ∧
      step ((call.map id kind).map (Session.engineOutcome answer) id).1 state' := by
  obtain ⟨value, state'⟩ := call
  cases value with
  | error cause =>
    obtain rfl := kept rfl
    exact ⟨_, rfl, refuse cause⟩
  | ok a => exact ⟨state', rfl, agreed rfl⟩

/-! ### The RAM engine -/

namespace Ram

/-- What a call can do to a RAM engine, and how it answers. -/
inductive Step (r : Ram) : EngineCommand → Outcome → Ram → Prop
  | create : r.synth = none → r.Step .createSynth (.nativeSynth ⟨r.nextSynth⟩)
    { r with synth := some ⟨⟨r.nextSynth⟩, .empty, none, []⟩, nextSynth := r.nextSynth + 1 }
  | destroy {s : RamSynth} : r.synth = some s →
    r.Step (.destroySynth s.handle) .done { r with synth := none }
  | load {h : SampleHandle} {path : FilePath} {rootKey : UInt8} {data : List Int16} :
    r.freeSlot? = some h → data ≠ [] → r.Step (.loadSample path rootKey) (.nativeSample h)
      { r with slots := r.slots.insert h ⟨path, rootKey, data⟩ }
  | delete {h : SampleHandle} : r.slots.contains h = true →
    r.Step (.deleteSample h) .done (r.without h)
  | bind {s : RamSynth} {sample : SampleHandle} {p : Program} {lokey hikey : UInt8} :
    r.slots.contains sample = true → lokey ≤ hikey → r.synth = some s →
      r.Step (.bind s.handle sample p lokey hikey) .done
        (r.withSynth (s.attach p ⟨sample, lokey, hikey⟩))
  | unbind {s : RamSynth} {sample : SampleHandle} {p : Program} {zones : List Zone} :
    r.synth = some s → s.zones.find? p = some zones → (∃ z ∈ zones, z.sample = sample) →
      r.Step (.unbind s.handle sample p) .done (r.withSynth (s.detach p sample zones))
  | loadSoundFont {s : RamSynth} {path : FilePath} : r.synth = some s →
    r.Step (.loadSoundFont s.handle path) (.font (s.fonts.length + 1))
      (r.withSynth (s.addFont (s.fonts.length + 1) path))
  /-- The call was refused. -/
  | refuse (command : EngineCommand) (cause : EngineError) :
    (∀ h, command ≠ .destroySynth h) → r.Step command (.engineFailed cause) r
  /-- There was no such synth to destroy. -/
  | ignoreSynth {h : SynthHandle} : r.synth? h = none → r.Step (.destroySynth h) .done r
  /-- There was no such sample to delete. -/
  | ignoreSample {h : SampleHandle} : r.slots.contains h = false →
    r.Step (.deleteSample h) .done r

/-- Whatever a RAM engine is asked, it takes one of its steps. -/
theorem step_runEngine (fs : Files) (r : Ram) (command : EngineCommand) :
    ∃ r', (runEngine fs (.ram r) command).2 = .ram r' ∧
      r.Step command (runEngine fs (.ram r) command).1 r' := by
  cases command with
  | createSynth =>
    refine exists_step_of_call (r.Step _) r.createSynth (.refuse _ · (by rintro _ ⟨⟩))
      eq_of_createSynth_error fun h => ?_
    obtain ⟨no_synth, rfl, rfl⟩ := of_createSynth_ok h
    exact .create no_synth
  | destroySynth native =>
    refine ⟨r.destroySynth native, rfl, ?_⟩
    rw [destroySynth]
    cases found : r.synth? native with
    | none => exact .ignoreSynth found
    | some s =>
      obtain ⟨synth, rfl⟩ := synth?_eq_some_iff.1 found
      exact .destroy synth
  | loadSample path rootKey =>
    refine exists_step_of_call (r.Step _) (r.loadSample fs path rootKey)
      (.refuse _ · (by rintro _ ⟨⟩)) eq_of_loadSample_error fun h => ?_
    obtain ⟨data, some_data, free, rfl⟩ := of_loadSample_ok h
    exact .load free some_data
  | deleteSample h =>
    refine ⟨r.deleteSample h, rfl, ?_⟩
    rw [deleteSample]
    cases live : r.slots.contains h with
    | false => exact .ignoreSample live
    | true => exact .delete live
  | bind native sample p lokey hikey =>
    refine exists_step_of_call (r.Step _) (r.bind native sample p lokey hikey)
      (.refuse _ · (by rintro _ ⟨⟩)) eq_of_bind_error fun h => ?_
    obtain ⟨s, live, ascending, found, rfl⟩ := of_bind_ok h
    obtain ⟨synth, rfl⟩ := synth?_eq_some_iff.1 found
    exact .bind live ascending synth
  | unbind native sample p =>
    refine exists_step_of_call (r.Step _) (r.unbind native sample p)
      (.refuse _ · (by rintro _ ⟨⟩)) eq_of_unbind_error fun h => ?_
    obtain ⟨s, zones, found, there, swept, rfl⟩ := of_unbind_ok h
    obtain ⟨synth, rfl⟩ := synth?_eq_some_iff.1 found
    exact .unbind synth there swept
  | loadSoundFont native path =>
    refine exists_step_of_call (r.Step _) (r.loadSoundFont fs native path)
      (.refuse _ · (by rintro _ ⟨⟩)) eq_of_loadSoundFont_error fun h => ?_
    obtain ⟨s, found, rfl, rfl⟩ := of_loadSoundFont_ok h
    obtain ⟨synth, rfl⟩ := synth?_eq_some_iff.1 found
    exact .loadSoundFont synth

end Ram

/-! ### The mock engine -/

namespace Mock

/-- What a call can do to a mock engine, and how it answers. -/
inductive Step (m : Mock) : EngineCommand → Outcome → Mock → Prop
  | create : m.Step .createSynth (.nativeSynth ⟨m.nextSynth⟩)
    { m with synths := m.synths.insert ⟨m.nextSynth⟩ (), nextSynth := m.nextSynth + 1 }
  | destroy {h : SynthHandle} : m.synths.contains h = true → m.Step (.destroySynth h) .done
    { m with synths := m.synths.erase h, zones := m.zones.filter (·.synth ≠ h) }
  | load {path : FilePath} {rootKey : UInt8} :
    m.Step (.loadSample path rootKey) (.nativeSample ⟨m.nextSample⟩)
      { m with
        samples := m.samples.insert ⟨m.nextSample⟩ (path, rootKey)
        nextSample := m.nextSample + 1 }
  | delete {h : SampleHandle} : m.samples.contains h = true → m.Step (.deleteSample h) .done
    { m with samples := m.samples.erase h, zones := m.zones.filter (·.sample ≠ h) }
  | bind {h : SynthHandle} {sample : SampleHandle} {p : Program} {lokey hikey : UInt8} :
    m.synths.contains h = true → m.samples.contains sample = true →
      m.Step (.bind h sample p lokey hikey) .done
        { m with zones := m.zones ++ [⟨h, sample, p, lokey, hikey⟩] }
  | unbind {h : SynthHandle} {sample : SampleHandle} {p : Program} :
    (∃ z ∈ m.zones, z.synth = h ∧ z.sample = sample ∧ z.program = p) →
      m.Step (.unbind h sample p) .done
        { m with
          zones := m.zones.filter fun z => ¬(z.synth = h ∧ z.sample = sample ∧ z.program = p) }
  | loadSoundFont {h : SynthHandle} {path : FilePath} : m.synths.contains h = true →
    m.Step (.loadSoundFont h path) (.font (m.fonts.length + 1))
      { m with fonts := m.fonts ++ [path] }
  /-- The call was refused. -/
  | refuse (command : EngineCommand) (cause : EngineError) :
    (∀ h, command ≠ .destroySynth h) → m.Step command (.engineFailed cause) m
  /-- There was no such synth to destroy. -/
  | ignoreSynth {h : SynthHandle} : m.synths.contains h = false → m.Step (.destroySynth h) .done m
  /-- There was no such sample to delete. -/
  | ignoreSample {h : SampleHandle} : m.samples.contains h = false →
    m.Step (.deleteSample h) .done m

/-- Whatever a mock engine is asked, it takes one of its steps. -/
theorem step_runEngine (fs : Files) (m : Mock) (command : EngineCommand) :
    ∃ m', (runEngine fs (.mock m) command).2 = .mock m' ∧
      m.Step command (runEngine fs (.mock m) command).1 m' := by
  cases command with
  | createSynth =>
    refine exists_step_of_call (m.Step _) m.createSynth (.refuse _ · (by rintro _ ⟨⟩))
      eq_of_createSynth_error fun h => ?_
    obtain ⟨rfl, rfl⟩ := of_createSynth_ok h
    exact .create
  | destroySynth native =>
    refine ⟨m.destroySynth native, rfl, ?_⟩
    rw [destroySynth]
    cases present : m.synths.contains native with
    | false => exact .ignoreSynth present
    | true => exact .destroy present
  | loadSample path rootKey =>
    refine exists_step_of_call (m.Step _) (m.loadSample path rootKey)
      (.refuse _ · (by rintro _ ⟨⟩)) eq_of_loadSample_error fun h => ?_
    obtain ⟨rfl, rfl⟩ := of_loadSample_ok h
    exact .load
  | deleteSample h =>
    refine ⟨m.deleteSample h, rfl, ?_⟩
    rw [deleteSample]
    cases live : m.samples.contains h with
    | false => exact .ignoreSample live
    | true => exact .delete live
  | bind native sample p lokey hikey =>
    refine exists_step_of_call (m.Step _) (m.bind native sample p lokey hikey)
      (.refuse _ · (by rintro _ ⟨⟩)) eq_of_bind_error fun h => ?_
    obtain ⟨present, live, rfl⟩ := of_bind_ok h
    exact .bind present live
  | unbind native sample p =>
    refine exists_step_of_call (m.Step _) (m.unbind native sample p)
      (.refuse _ · (by rintro _ ⟨⟩)) eq_of_unbind_error fun h => ?_
    obtain ⟨swept, rfl⟩ := of_unbind_ok h
    exact .unbind swept
  | loadSoundFont native path =>
    refine exists_step_of_call (m.Step _) (m.loadSoundFont native path)
      (.refuse _ · (by rintro _ ⟨⟩)) eq_of_loadSoundFont_error fun h => ?_
    obtain ⟨present, rfl, rfl⟩ := of_loadSoundFont_ok h
    exact .loadSoundFont present

end Mock

end SampleBank
