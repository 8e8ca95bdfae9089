import Mathlib.Order.Basic
import SampleBank.Proofs.Engine.Calls

/-!
# What one user of an engine leaves to the others

An engine is shared by stores and synthesizers that do not know of each other. Seen from one of
them, the others hold the samples `rest` and play on the synths `others`. `Engine.Spares` says that
a call did nothing to them: their samples are what they were, and so are the zones and SoundFonts
of their synths, provided those play only samples of their own.

Every call spares the others as long as it names neither a sample nor a synth of theirs. The proviso
about zones is there for the deleting of a sample, which sweeps the zones of every synth.
-/

namespace SampleBank

namespace Engine

/-- What is not the caller's is as it was. -/
structure Spares (rest : List SampleHandle) (others : List SynthHandle) (e e' : Engine) : Prop where
  sample? : ∀ h ∈ rest, e'.sample? h = e.sample? h
  zones : ∀ native ∈ others, (∀ p, ∀ z ∈ e.zones native p, z.sample ∈ rest) →
    ∀ p, e'.zones native p = e.zones native p
  order : ∀ native ∈ others, e.KeepsOrder native e'
  fonts : ∀ native ∈ others, e'.fonts? native = e.fonts? native

variable {rest : List SampleHandle} {others : List SynthHandle} {e e' e'' : Engine}
  {native : SynthHandle} {h : SampleHandle} {p : Program}

namespace Spares

/-- An engine that does nothing spares everyone. -/
theorem refl (rest : List SampleHandle) (others : List SynthHandle) (e : Engine) :
    e.Spares rest others e :=
  ⟨fun _ _ => rfl, fun _ _ _ _ => rfl, fun native _ => .refl native e, fun _ _ => rfl⟩

/-- What is spared twice is spared. -/
theorem trans (first : e.Spares rest others e') (second : e'.Spares rest others e'') :
    e.Spares rest others e'' where
  sample? h hh := (second.sample? h hh).trans (first.sample? h hh)
  zones native hn own p := by
    have kept := first.zones native hn own
    rw [← kept p]
    -- their zones are unchanged so far, so they still play samples of their own only
    refine second.zones native hn (fun q z hz => own q z ?_) p
    rwa [← kept q]
  order native hn := (first.order native hn).trans (second.order native hn)
  fonts native hn := (second.fonts native hn).trans (first.fonts native hn)

/-- Users who hold less and play less are spared too. -/
theorem mono {rest' : List SampleHandle} {others' : List SynthHandle}
    (spares : e.Spares rest others e') (h_rest : rest' ⊆ rest) (h_others : others' ⊆ others) :
    e.Spares rest' others' e' where
  sample? h hh := spares.sample? h (h_rest hh)
  zones native hn own := spares.zones native (h_others hn) fun p z hz => h_rest (own p z hz)
  order native hn := spares.order native (h_others hn)
  fonts native hn := spares.fonts native (h_others hn)

end Spares

/-- Creating a synth takes nothing from anyone. -/
theorem Created.spares (c : e.Created native e') (rest : List SampleHandle)
    (others : List SynthHandle) : e.Spares rest others e' :=
  ⟨fun h _ => c.samples.sample? h, fun native _ _ => c.zones native,
    fun native _ => c.order native, fun native _ => c.fonts native⟩

/-- Destroying a synth spares all who play on others. -/
theorem Destroyed.spares (d : e.Destroyed native e') (rest : List SampleHandle)
    (other : native ∉ others) : e.Spares rest others e' where
  sample? h _ := d.samples.sample? h
  zones native' hn _ p := (d.zones native' p).trans (if_neg (ne_of_mem_of_not_mem hn other))
  order native' _ := d.order native'
  fonts native' hn := d.fonts native' (ne_of_mem_of_not_mem hn other)

/-- A new sample gets a handle that nobody holds. -/
theorem Loaded.spares {path : FilePath} {rootKey : UInt8} (l : e.Loaded h path rootKey e')
    (live : rest ⊆ e.handles) (others : List SynthHandle) : e.Spares rest others e' where
  sample? k hk := by
    obtain ⟨data, found⟩ := l.sample?
    rw [found, if_neg]
    rintro rfl
    exact l.fresh (live hk)
  zones native _ _ := l.zones native
  order native _ := l.order native
  fonts native _ := l.fonts native

/-- Zones that play other samples survive the sweep. -/
theorem Deleted.spares (d : e.Deleted h e') (other : h ∉ rest) (others : List SynthHandle) :
    e.Spares rest others e' where
  sample? k hk := (d.sample? k).trans (if_neg (ne_of_mem_of_not_mem hk other))
  zones native _ own p := by
    rw [d.zones, List.filter_eq_self]
    intro z hz
    exact decide_eq_true (ne_of_mem_of_not_mem (own p z hz) other)
  order native _ := d.order native
  fonts native _ := d.fonts native

/-- A zone that is attached to one synth does not concern the others. -/
theorem Attached.spares {z : Zone} (a : e.Attached native p z e') (rest : List SampleHandle)
    (other : native ∉ others) : e.Spares rest others e' where
  sample? h _ := a.samples.sample? h
  zones native' hn _ q :=
    (a.zones native' q).trans (if_neg fun eq => ne_of_mem_of_not_mem hn other eq.1)
  order native' hn := a.order native' (ne_of_mem_of_not_mem hn other)
  fonts native' _ := a.fonts native'

/-- Zones that are detached from one synth do not concern the others. -/
theorem Detached.spares (d : e.Detached native h p e') (rest : List SampleHandle)
    (other : native ∉ others) : e.Spares rest others e' where
  sample? h _ := d.samples.sample? h
  zones native' hn _ q :=
    (d.zones native' q).trans (if_neg fun eq => ne_of_mem_of_not_mem hn other eq.1)
  order native' _ := d.order native'
  fonts native' _ := d.fonts native'

/-- A SoundFont of one synth does not concern the others. -/
theorem FontAdded.spares {path : FilePath} (f : e.FontAdded native path e')
    (rest : List SampleHandle) (other : native ∉ others) : e.Spares rest others e' where
  sample? h _ := f.samples.sample? h
  zones native' _ _ := f.zones native'
  order native' _ := f.order native'
  fonts native' hn := (f.fonts native').trans (if_neg (ne_of_mem_of_not_mem hn other))

end Engine

end SampleBank
