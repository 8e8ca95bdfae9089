import SampleBank.Audio.Decode
import SampleBank.Router
import SampleBank.Text.Quoted

/-!
# Errors

What an engine refuses (`EngineError`) and what the operations on stores, key maps and
synthesizers refuse (`Error`). Errors are causes; their wording is in the `text` functions, and
an error that has another one as its cause shows it (`Error.cause?`).
-/

namespace SampleBank

/-- What is wrong with a file that is loaded as a SoundFont. -/
inductive SoundFontFault
  | tooShort
  | noRiffHeader
  | otherForm (form : List UInt8)
  | described (text : String)
deriving DecidableEq

/-- What a fault of a SoundFont is called. -/
def SoundFontFault.text : SoundFontFault → String
  | .tooShort => "file is too short"
  | .noRiffHeader => "missing RIFF header"
  | .otherForm form =>
    s!"unexpected form type {Quoted.encode (String.ofList (Utf8.decodeLossy form))}"
  | .described text => text

/-- Why an engine refuses a call. -/
inductive EngineError
  | synthActive
  | unknownSynth (synth : SynthHandle)
  | noFreeSlot (max : Nat)
  | decode (cause : DecodeError)
  | notMono (channels : UInt16)
  | sampleRate (expected actual : UInt32)
  | emptySample
  | unknownSample (sample : SampleHandle)
  | noZone
  | invalidSoundFont (fault : SoundFontFault)
  | rejected (reason : String)
deriving DecidableEq

namespace EngineError

/-- What an engine says. -/
def text : EngineError → String
  | .synthActive => "a synth is already active on this engine"
  | .unknownSynth synth => s!"unknown synth {synth.text}"
  | .noFreeSlot max => s!"no free sample slot (maximum {max})"
  | .decode cause => cause.text
  | .notMono channels => s!"sample must be mono, found {channels.toNat} channels"
  | .sampleRate expected actual =>
    s!"sample rate must be {expected.toNat}Hz, found {actual.toNat}Hz"
  | .emptySample => "sample contains no audio"
  | .unknownSample sample => s!"unknown sample {sample.text}"
  | .noZone => "no zone for that sample in this bank and preset"
  | .invalidSoundFont fault => s!"not a SoundFont: {fault.text}"
  | .rejected reason => s!"rejected by engine: {reason}"

/-- The negative status code of a failure. -/
def code : EngineError → Int
  | .synthActive | .unknownSynth _ | .noFreeSlot _ => -1
  | .decode _ | .unknownSample _ => -2
  | .notMono _ | .noZone | .invalidSoundFont _ | .rejected _ => -3
  | .sampleRate _ _ => -4
  | .emptySample => -8

end EngineError

/-- Where a synthesizer stands in its life: it is opened at most once and closed for good. -/
inductive Phase
  | uninitialized
  | «open»
  | closed
deriving DecidableEq

/-- What a phase is called. -/
def Phase.text : Phase → String
  | .uninitialized => "uninitialized"
  | .open => "open"
  | .closed => "closed"

/-- Why a key range is not attached. -/
inductive BindFailure
  | overlap (sample : SampleHandle) (lokey hikey : UInt8)
  | engine (cause : EngineError)
deriving DecidableEq

/-- What a failure to attach a range says. -/
def BindFailure.text : BindFailure → String
  | .overlap sample lokey hikey =>
    s!"overlaps keys {lokey.toNat}-{hikey.toNat} already bound to sample {sample.text}"
  | .engine cause => cause.text

/-- What is not there. -/
inductive Missing
  | notLoaded (sample : SampleHandle)
  | notBound (sample : SampleHandle) (program : Program)
  /-- The engine refused to let go of a sample. -/
  | refused (sample : SampleHandle) (cause : EngineError)
  | described (text : String)
deriving DecidableEq

/-- What is said of something that is not there. -/
def Missing.text : Missing → String
  | .notLoaded sample => s!"sample {sample.text} is not loaded"
  | .notBound sample program =>
    s!"sample {sample.text} is not bound in bank {program.bank.toNat}, " ++
      s!"preset {program.preset.toNat}"
  | .refused sample cause => s!"sample {sample.text}: {cause.text}"
  | .described text => text

/-- Why an operation fails. -/
inductive Error
  | init (cause : EngineError)
  | load (path : FilePath) (cause : EngineError)
  | bind (sample : SampleHandle) (program : Program) (lokey hikey : UInt8)
      (failure : BindFailure)
  | invalidArgument (cause : ArgumentError)
  | invalidState (phase : Phase)
  | notFound (what : Missing)
deriving DecidableEq

namespace Error

/-- The broad category of an error. -/
def kind : Error → String
  | .init _ => "init"
  | .load .. => "load"
  | .bind .. => "bind"
  | .invalidArgument _ => "invalid argument"
  | .invalidState _ => "invalid state"
  | .notFound _ => "not found"

/-- What an error says. -/
def text : Error → String
  | .init cause => s!"synthesizer initialization failed: {cause.text}"
  | .load path cause => s!"failed to load {path.text}: {cause.text}"
  | .bind sample program lokey hikey failure =>
    s!"failed to bind sample {sample.text} to bank {program.bank.toNat}, " ++
      s!"preset {program.preset.toNat}, keys {lokey.toNat}-{hikey.toNat}: {failure.text}"
  | .invalidArgument cause => s!"invalid argument: {cause.text}"
  | .invalidState phase => s!"synthesizer is {phase.text}"
  | .notFound what => s!"not found: {what.text}"

/-- What is said of the cause of an error that has one. -/
def cause? : Error → Option String
  | .init cause | .load _ cause => some cause.text
  | .bind _ _ _ _ failure => some failure.text
  | .invalidArgument _ | .invalidState _ | .notFound _ => none

/-- The failure of the engine behind an error. -/
def engine? : Error → Option EngineError
  | .init cause | .load _ cause | .bind _ _ _ _ (.engine cause) => some cause
  | _ => none

/-- An error of a key map, seen from outside. -/
def ofRouter : RouterError → Error
  | .argument cause => .invalidArgument cause
  | .overlap wanted program bound =>
    .bind wanted.sample program wanted.lokey wanted.hikey
      (.overlap bound.sample bound.lokey bound.hikey)

end Error

end SampleBank
