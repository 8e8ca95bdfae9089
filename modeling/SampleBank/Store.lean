import SampleBank.Engine

/-!
# Sample stores

A store owns the samples that it has loaded through an engine: it hands out their handles and
releases each of them at the engine once (`Store.release`). A handle that the store does not own
is ignored, so releasing twice does nothing the second time.
-/

namespace SampleBank

/-- A loaded sample. -/
structure Sample where
  handle : SampleHandle
  filename : FilePath
  /-- The key on which the sample plays at its recorded rate. -/
  rootKey : UInt8
deriving DecidableEq

namespace Sample

/-- A sample by handle, file name and root key. -/
def text (s : Sample) : String :=
  s!"{s.handle.text} ({s.filename.displayName}, root key {s.rootKey.toNat})"

/-- The rate at which the sample plays on a key, relative to its recorded rate: an octave doubles
it. -/
def playbackRate (s : Sample) (key : UInt8) : Float32 :=
  let octaves := (Float32.ofNat key.toNat - Float32.ofNat s.rootKey.toNat) / 12
  (Float.exp2 octaves.toFloat).toFloat32

end Sample

/-- The samples that a store owns, by handle. -/
structure Store where
  samples : SortedMap SampleHandle Sample
deriving DecidableEq

namespace Store

variable {E : Type} [SampleEngine E]

/-- The store without samples. -/
def empty : Store := ⟨.empty⟩

/-- Loads a sample. The root key is checked before the engine is asked. -/
def load (fs : Files) (path : FilePath) (rootKey : UInt8) (s : Store) (e : E) :
    Except Error Sample × Store × E :=
  match checkKey .rootKey rootKey with
  | .error cause => (.error (.invalidArgument cause), s, e)
  | .ok () =>
    match SampleEngine.loadSample fs path rootKey e with
    | (.error cause, e) => (.error (.load path cause), s, e)
    | (.ok h, e) =>
      let sample : Sample := ⟨h, path, rootKey⟩
      (.ok sample, ⟨s.samples.insert h sample⟩, e)

/-- The sample with a handle, if the store owns it. -/
def lookup (s : Store) (h : SampleHandle) : Option Sample := s.samples.find? h

/-- Whether the store owns a sample. -/
def contains (s : Store) (h : SampleHandle) : Bool := s.samples.contains h

/-- Releases a sample at the engine. A handle that the store does not own is ignored. -/
def release (h : SampleHandle) (s : Store) (e : E) : Store × E :=
  if s.contains h then (⟨s.samples.erase h⟩, SampleEngine.deleteSample h e) else (s, e)

/-- The handles of the samples, in ascending order. -/
def handles (s : Store) : List SampleHandle := s.samples.keys

/-- Releases every sample, in the order of their handles. -/
def releaseAll (s : Store) (e : E) : Store × E :=
  s.handles.foldl (fun (s, e) h => release h s e) (s, e)

/-- The number of samples. -/
def size (s : Store) : Nat := s.samples.size

/-- Whether there is no sample. -/
def isEmpty (s : Store) : Bool := s.samples.isEmpty

/-- A store by its engine and its number of samples. -/
def describe (s : Store) (e : E) : String :=
  "SampleStore \x7b engine: " ++ Quoted.encode (SampleEngine.text e) ++ s!", samples: {s.size} \x7d"

end Store

end SampleBank
