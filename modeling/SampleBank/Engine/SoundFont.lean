import SampleBank.Error

/-!
# SoundFont headers

A SoundFont is recognised by the first twelve bytes of its file: a RIFF tag, a length that is not
looked at, and the form `sfbk`.
-/

namespace SampleBank

/-- Checks the first twelve bytes of a file. -/
def checkSoundFontBytes (bytes : List UInt8) : Except SoundFontFault Unit :=
  if bytes.length < 12 then .error .tooShort
  else if bytes.take 4 ≠ Bytes.ascii "RIFF" then .error .noRiffHeader
  else if (bytes.drop 8).take 4 ≠ Bytes.ascii "sfbk" then
    .error (.otherForm ((bytes.drop 8).take 4))
  else .ok ()

/-- Checks that a path leads to a SoundFont. A directory has no bytes to read. -/
def checkSoundFont (fs : Files) (path : FilePath) : Except EngineError Unit :=
  match fs.open path with
  | .error e => .error (.decode (.io path e))
  | .ok node =>
    let bytes := match node with
      | .file bytes => bytes
      | .directory => []
    match checkSoundFontBytes bytes with
    | .error fault => .error (.invalidSoundFont fault)
    | .ok () => .ok ()

end SampleBank
