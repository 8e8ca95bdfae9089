import SampleBank.Config.Document
import SampleBank.Files

/-!
# Configuration errors

Why a configuration cannot be used. A value that does not fit is reported with the path to it
(`Fault`); the path grows on the way out of the tables and lists that it stands in (`Fault.under`).
-/

namespace SampleBank.Config

/-- Why a value does not fit where it stands. -/
inductive Misfit
  /-- Something else than a number or text of the expected kind. -/
  | mistyped (found : Found) (wanted : String) (located : Bool)
  /-- Something else than a record or a list. -/
  | unfit (found : Found) (wanted : String)
  | tooShort (length : Nat) (wanted : String)
  | missing
  | noVariant (type name : String)
  | notAVariant (type : String)
deriving DecidableEq

/-- A value that does not fit, and the path to it. -/
structure Fault where
  path : List Step
  misfit : Misfit
deriving DecidableEq

namespace Fault

/-- A fault of the value itself. -/
def here (misfit : Misfit) : Fault := ⟨[], misfit⟩

/-- A fault seen from outside. -/
def outside (step : Step) (f : Fault) : Fault := { f with path := step :: f.path }

/-- What is said of a value that does not fit. -/
def text (file : String) (f : Fault) : String :=
  let key := pathText f.path
  match f.misfit with
  | .mistyped found wanted located =>
    s!"invalid type: {found.describe}, expected {wanted} for key `{key}`" ++
      if located then s!" in {file}" else ""
  | .unfit found wanted => s!"invalid type: {found.brief}, expected {wanted} for key `{key}`"
  | .tooShort length wanted => s!"invalid length {length}, expected {wanted} for key `{key}`"
  | .missing => "missing configuration field " ++ Quoted.encode key
  | .noVariant type name =>
    s!"enum {type} does not have variant constructor {name} for key `{key}`"
  | .notAVariant type =>
    s!"value of enum {type} should be represented by either string or table with " ++
      s!"exactly one key for key `{key}`"

end Fault

/-- Reads what stands behind a step. -/
def under {α : Type} (step : Step) : Except Fault α → Except Fault α
  | .ok a => .ok a
  | .error f => .error (f.outside step)

end SampleBank.Config

namespace SampleBank

/-- Why a configuration file is not read or written. -/
inductive ConfigError
  | notFound (path : FilePath)
  | unsupported (path : FilePath)
  | notParsed (file : String)
  | document (file : String) (fault : Config.DocumentFault)
  | value (file : String) (fault : Config.Fault)
  | write (cause : IoError)
deriving DecidableEq

/-- What is said of a configuration file. -/
def ConfigError.text : ConfigError → String
  | .notFound path => s!"Config load/parse error: configuration file \"{path.text}\" not found"
  | .unsupported path =>
    s!"Config load/parse error: configuration file \"{path.text}\" is not of a supported " ++
      "file format"
  | .notParsed file => s!"Config load/parse error: syntax error in {file}"
  | .document file fault => s!"Config load/parse error: {fault.text file} in {file}"
  | .value file fault => s!"Config load/parse error: {fault.text file}"
  | .write cause => s!"Config write error: {cause.text}"

end SampleBank
