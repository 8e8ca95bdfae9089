import SampleBank.Proofs.Engine.Calls
import SampleBank.Proofs.Engine.Health

/-!
# What deleting a sample undoes

Deleting a sample takes its zones with it, so it makes no difference whether some of them were
detached before, nor whether the engine had agreed to that (`Engine.without_unbind`). And as a
handle that is given out is that of no live sample, no zone has it yet: a sample that is deleted
right after it was loaded leaves the engine as it was before (`Engine.restored_deleteSample`).

For a RAM engine this is the whole state. There it depends on `Ram.Tidy`, as the sweep would also
drop a program that was kept without zones. A mock engine never gives a number out again, so that
counter is what it does not get back.
-/

namespace SampleBank

/-- The engine without a sample and its zones. -/
def Mock.without (m : Mock) (h : SampleHandle) : Mock :=
  { m with samples := m.samples.erase h, zones := m.zones.filter (·.sample ≠ h) }

namespace Engine

/-- The engine without a sample and its zones. -/
def without (h : SampleHandle) : Engine → Engine
  | .ram r => .ram (r.without h)
  | .mock m => .mock (m.without h)

/-- Nothing about an engine has changed but the number of a mock engine's next sample. -/
inductive Restored : Engine → Engine → Prop
  | ram (r : Ram) : Restored (.ram r) (.ram r)
  | mock (m : Mock) (next : Nat) : Restored (.mock m) (.mock { m with nextSample := next })

/-- A RAM engine keeps itself in order. There is nothing to keep in order in a mock engine. -/
def Tidy : Engine → Prop
  | .ram r => r.Tidy r.maxSamples
  | .mock _ => True

variable {e e' : Engine} {native : SynthHandle} {h : SampleHandle} {p : Program} {fs : Files}
  {path : FilePath} {rootKey : UInt8}

theorem Restored.refl (e : Engine) : e.Restored e := by
  cases e with
  | ram r => exact .ram r
  | mock m => exact .mock m m.nextSample

/-- A live sample is deleted with its zones. -/
theorem deleteSample_eq (live : h ∈ e.handles) : e.deleteSample h = e.without h := by
  cases e with
  | ram r => exact congrArg ram (if_pos (SortedMap.mem_keys_iff.1 live))
  | mock m => exact congrArg mock (if_pos (SortedMap.mem_keys_iff.1 live))

/-! ### Detaching before deleting -/

/-- A sweep that finds nothing keeps a program as it is. -/
theorem zonesWithout?_eq_some {zones : List Zone} (some_zone : zones ≠ [])
    (others : ∀ z ∈ zones, z.sample ≠ h) : Ram.zonesWithout? h zones = some zones := by
  have kept : zones.filter (·.sample ≠ h) = zones :=
    List.filter_eq_self.2 fun z hz => decide_eq_true (others z hz)
  rw [Ram.zonesWithout?, kept, if_neg fun none => some_zone (List.isEmpty_iff.1 none)]

theorem zonesWithout?_bind_self (zones : List Zone) :
    (Ram.zonesWithout? h zones).bind (Ram.zonesWithout? h) = Ram.zonesWithout? h zones := by
  cases swept : Ram.zonesWithout? h zones with
  | none => rfl
  | some left =>
    obtain ⟨some_left, part⟩ := Ram.of_zonesWithout?_eq_some swept
    exact zonesWithout?_eq_some some_left fun z hz => (part z hz).2

/-- What was taken out of one program is taken out of all of them. -/
theorem forget_detach {s : RamSynth} {zones : List Zone} (there : s.zones.find? p = some zones) :
    (s.detach p h zones).forget h = s.forget h := by
  have same : (s.detach p h zones).zones.filterMap (fun _ => Ram.zonesWithout? h) =
      s.zones.filterMap fun _ => Ram.zonesWithout? h := by
    refine SortedMap.ext_find? fun q => ?_
    rw [SortedMap.find?_filterMap, SortedMap.find?_filterMap, find?_detach]
    split
    · rename_i hq
      rw [hq, there, zonesWithout?_bind_self, Option.bind_some]
    · rfl
  exact congrArg (fun left => { s with zones := left }) same

/-- Detaching a sample makes no difference where the sample goes anyway, whether or not the engine
agrees to it. -/
theorem without_unbind (e : Engine) (native : SynthHandle) (h : SampleHandle) (p : Program) :
    (e.unbind native h p).2.without h = e.without h := by
  rcases asked : e.unbind native h p with ⟨answer, e'⟩
  cases answer with
  | error cause => rw [eq_of_unbind_error asked]
  | ok _ =>
    cases e with
    | ram r =>
      obtain ⟨r', agreed, rfl⟩ := exists_of_map_eq asked
      obtain ⟨s, zones, found, there, -, rfl⟩ := Ram.of_unbind_ok agreed
      obtain ⟨synth, -⟩ := Ram.synth?_eq_some_iff.1 found
      have own : (s.detach p h zones).forget h = s.forget h := forget_detach there
      have same : (r.withSynth (s.detach p h zones)).without h = r.without h := by
        rw [Ram.without, Ram.without, Ram.withSynth, synth, Option.map_some, Option.map_some, own]
      exact congrArg ram same
    | mock m =>
      obtain ⟨m', agreed, rfl⟩ := exists_of_map_eq asked
      obtain ⟨-, rfl⟩ := Mock.of_unbind_ok agreed
      have same : (m.zones.filter fun z =>
          ¬(z.synth = native ∧ z.sample = h ∧ z.program = p)).filter (·.sample ≠ h) =
            m.zones.filter (·.sample ≠ h) := by
        rw [List.filter_filter]
        refine List.filter_congr fun z _ => ?_
        by_cases hz : z.sample = h
        · simp [hz]
        · simp [hz]
      exact congrArg (fun left => mock { m with samples := m.samples.erase h, zones := left }) same

/-! ### Deleting what was just loaded -/

/-- Nothing goes with a sample that is not there. -/
theorem forget_eq_self {s : RamSynth} {slots : SortedMap SampleHandle RamSample}
    (tidy : s.Tidy slots) (absent : slots.contains h = false) : s.forget h = s := by
  have same : s.zones.filterMap (fun _ => Ram.zonesWithout? h) = s.zones := by
    refine SortedMap.ext_find? fun p => ?_
    rw [SortedMap.find?_filterMap]
    cases there : s.zones.find? p with
    | none => rfl
    | some zones =>
      obtain ⟨some_zone, sound⟩ := tidy p zones there
      refine zonesWithout?_eq_some some_zone fun z hz => ?_
      rintro rfl
      rw [(sound z hz).1] at absent
      cases absent
  exact congrArg (fun left => { s with zones := left }) same

/-- A sample in a slot that was free goes without a trace. -/
theorem without_insert {r : Ram} {limit : Nat} (tidy : r.Tidy limit)
    (absent : r.slots.contains h = false) (sample : RamSample) :
    Ram.without { r with slots := r.slots.insert h sample } h = r := by
  have synth : r.synth.map (·.forget h) = r.synth := by
    cases own : r.synth with
    | none => rfl
    | some s => rw [Option.map_some, forget_eq_self (tidy.zones s own) absent]
  have slots : (r.slots.insert h sample).erase h = r.slots := by
    rw [SortedMap.erase_insert, SortedMap.erase_eq_self absent]
  rw [Ram.without, slots, synth]

/-- What was loaded last can be deleted without a trace. -/
theorem restored_deleteSample (sound : e.Sound) (tidy : e.Tidy)
    (loaded : e.loadSample fs path rootKey = (.ok h, e')) : e.Restored (e'.deleteSample h) := by
  have l := loaded_of_loadSample sound loaded
  have live : h ∈ e'.handles := l.handles.mem_iff.2 List.mem_cons_self
  rw [deleteSample_eq live]
  cases e with
  | ram r =>
    obtain ⟨r', agreed, rfl⟩ := exists_of_map_eq loaded
    obtain ⟨data, -, free, rfl⟩ := Ram.of_loadSample_ok agreed
    have absent : r.slots.contains h = false := by
      rw [← Bool.not_eq_true, ← SortedMap.mem_keys_iff]
      exact l.fresh
    rw [without, without_insert tidy absent]
    exact .ram r
  | mock m =>
    obtain ⟨m', agreed, rfl⟩ := exists_of_map_eq loaded
    obtain ⟨rfl, rfl⟩ := Mock.of_loadSample_ok agreed
    have absent : m.samples.contains ⟨m.nextSample⟩ = false := by
      rw [← Bool.not_eq_true, ← SortedMap.mem_keys_iff]
      exact l.fresh
    have samples : (m.samples.insert ⟨m.nextSample⟩ (path, rootKey)).erase ⟨m.nextSample⟩ =
        m.samples := by
      rw [SortedMap.erase_insert, SortedMap.erase_eq_self absent]
    have zones : m.zones.filter (·.sample ≠ ⟨m.nextSample⟩) = m.zones := by
      refine List.filter_eq_self.2 fun z hz => decide_eq_true fun eq => ?_
      have seen : z.zone ∈ (mock m).zones z.synth z.program :=
        List.mem_map_of_mem (List.mem_filter.2 ⟨hz, decide_eq_true ⟨rfl, rfl⟩⟩)
      exact l.fresh (eq ▸ sound.zone_sample seen)
    rw [without, Mock.without, samples, zones]
    exact .mock m _

end Engine

end SampleBank
