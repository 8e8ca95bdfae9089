import SampleBank.Settings
import SampleBank.Yaml.Writing

/-!
# Saving layouts

A layout as YAML text: a list of SoundFonts and a list of samples, each with its members in order.
Lists stand in the column of their keys. A layout that is saved under a name for YAML files can be
loaded again.
-/

namespace SampleBank

/-- A line `key: n`, two columns in. -/
def numberLine (key : String) (n : Nat) : List Char :=
  s!"  {key}: {n}\n".toList

/-- A sample as an item of a list. -/
def SampleBinding.yaml (b : SampleBinding) : List Char :=
  Yaml.endLine ("- file: ".toList ++ Yaml.scalarText 4 b.file.toList) ++
    numberLine "root_key" b.rootKey.toNat ++ numberLine "bank" b.program.bank.toNat ++
    numberLine "preset" b.program.preset.toNat ++
    s!"  keys:\n  - {b.lokey.toNat}\n  - {b.hikey.toNat}\n".toList

namespace Layout

/-- A key with a list as its value. -/
def listText {α : Type} (key : String) (item : α → List Char) (items : List α) : List Char :=
  key.toList ++
    if items.isEmpty then ": []\n".toList else ":\n".toList ++ items.flatMap item

/-- A SoundFont as an item of a list. -/
def fontText (font : String) : List Char :=
  Yaml.endLine ("- ".toList ++ Yaml.scalarText 2 font.toList)

/-- A layout as YAML. -/
def yaml (l : Layout) : List Char :=
  listText "soundfonts" fontText l.soundFonts ++
    listText "samples" SampleBinding.yaml l.samples

/-- Writes a layout to a file. -/
def save (fs : Files) (path : FilePath) (l : Layout) : Except ConfigError Files :=
  (fs.write path (Utf8.encode l.yaml)).mapError .write

end Layout

end SampleBank
