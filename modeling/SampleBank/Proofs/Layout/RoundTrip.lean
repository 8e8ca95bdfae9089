import SampleBank.Proofs.Layout.Saving

/-!
# Layouts that are saved and loaded

A layout that was saved under a name for YAML files is loaded as it was (`Layout.load_save`):
whatever the numbers are, and whatever the texts look like, if they are kept. A text that is not,
one with a line separator in single quotes, comes back with spaces that were not in it
(`Layout.load_save_separator`).
-/

namespace SampleBank

open Config

/-! ### The values of nodes -/

/-- A sample as a value of a configuration. -/
def SampleBinding.value (b : SampleBinding) : Value :=
  .table true [("file", .text b.file), ("root_key", .integer b.rootKey.toNat),
    ("bank", .integer b.program.bank.toNat), ("preset", .integer b.program.preset.toNat),
    ("keys", .list true [.integer b.lokey.toNat, .integer b.hikey.toNat])]

theorem SampleBinding.ofNode_node (b : SampleBinding) : Value.ofNode b.node = .ok b.value := by
  have file : Value.ofNode (.text b.file.toList) = .ok (.text b.file) := by
    rw [Value.ofNode, String.ofList_toList]
  rw [node, Value.ofNode]
  simp only [entriesOfNodes, file]
  rfl

theorem itemsOfNodes_map {α : Type} {toNode : α → Yaml.Node} {toValue : α → Value}
    (h : ∀ a, Value.ofNode (toNode a) = .ok (toValue a)) (items : List α) :
    itemsOfNodes (items.map toNode) = .ok (items.map toValue) := by
  induction items with
  | nil => rfl
  | cons a items ih =>
    rw [List.map_cons, itemsOfNodes, h, ih]
    rfl

/-- The entries at the top of a layout. -/
def Layout.entries (l : Layout) : Entries :=
  [("soundfonts", .list true (l.soundFonts.map .text)),
    ("samples", .list true (l.samples.map SampleBinding.value))]

theorem Layout.ofNode_node (l : Layout) : Value.ofNode l.node = .ok (.table true l.entries) := by
  have fonts : itemsOfNodes (l.soundFonts.map fun font => .text font.toList) =
      .ok (l.soundFonts.map .text) :=
    itemsOfNodes_map (fun font => by rw [Value.ofNode, String.ofList_toList]) l.soundFonts
  have samples := itemsOfNodes_map SampleBinding.ofNode_node l.samples
  rw [node, Value.ofNode]
  simp only [entriesOfNodes, Value.ofNode, fonts, samples]
  rfl

theorem Layout.ofTop_entries (l : Layout) : Value.ofTop l.entries = .table false l.entries := by
  have paths : readPath? "soundfonts" = some [.field "soundfonts"] ∧
      readPath? "samples" = some [.field "samples"] := by decide
  rw [Value.ofTop, entries, List.foldl_cons, List.foldl_cons, List.foldl_nil]
  simp only [paths]
  rfl

/-! ### Binding -/

theorem unsigned_integer {bits n : Nat} (h : n < Nat.pow 2 bits) :
    unsigned bits (.integer n) = .ok n := by
  have natural_eq : natural (.integer n) = .ok n := by
    rw [natural]
    exact if_pos (Int.natCast_nonneg n)
  rw [unsigned, natural_eq]
  exact if_pos h

theorem unsigned_byte (n : UInt8) : unsigned 8 (.integer n.toNat) = .ok n.toNat :=
  unsigned_integer n.toNat_lt

theorem unsigned_word (n : UInt16) : unsigned 16 (.integer n.toNat) = .ok n.toNat :=
  unsigned_integer n.toNat_lt

/-- Each entry of a sample sets what it names, so that nothing of the empty draft is left. -/
theorem SampleBinding.read_value (b : SampleBinding) :
    record.read Draft.set ⟨none, none, 0, 0, none⟩ b.value =
      .ok ⟨some b.file, some b.rootKey.toNat, b.program.bank.toNat, b.program.preset.toNat,
        some (b.lokey.toNat, b.hikey.toNat)⟩ := by
  have file (d : Draft) : Draft.set d "file" (.text b.file) =
      .ok { d with file := some b.file } := rfl
  have root (d : Draft) : Draft.set d "root_key" (.integer b.rootKey.toNat) =
      .ok { d with rootKey := some b.rootKey.toNat } := by
    simp only [Draft.set, unsigned_byte]
    rfl
  have bank (d : Draft) : Draft.set d "bank" (.integer b.program.bank.toNat) =
      .ok { d with bank := b.program.bank.toNat } := by
    simp only [Draft.set, unsigned_word]
    rfl
  have preset (d : Draft) : Draft.set d "preset" (.integer b.program.preset.toNat) =
      .ok { d with preset := b.program.preset.toNat } := by
    simp only [Draft.set, unsigned_byte]
    rfl
  have keys (d : Draft) :
      Draft.set d "keys" (.list true [.integer b.lokey.toNat, .integer b.hikey.toNat]) =
        .ok { d with keys := some (b.lokey.toNat, b.hikey.toNat) } := by
    simp only [Draft.set, pair, List.take, readItems, unsigned_byte]
    rfl
  change List.foldlM (fun a e => under e.1 (Draft.set a e.2.1 e.2.2))
    (⟨none, none, 0, 0, none⟩ : Draft) [(Step.field "file", "file", Value.text b.file),
      (.field "root_key", "root_key", .integer b.rootKey.toNat),
      (.field "bank", "bank", .integer b.program.bank.toNat),
      (.field "preset", "preset", .integer b.program.preset.toNat),
      (.field "keys", "keys", .list true [.integer b.lokey.toNat, .integer b.hikey.toNat])] = _
  simp only [List.foldlM_cons, List.foldlM_nil, under, file, root, bank, preset, keys, bind,
    Except.bind]
  rfl

theorem SampleBinding.ofValue_value (b : SampleBinding) : ofValue b.value = .ok b := by
  rw [ofValue, b.read_value]
  simp only [bind, Except.bind, Record.required, UInt8.ofNat_toNat, UInt16.ofNat_toNat]
  rfl

theorem readItems_map {α : Type} {item : Value → Except Fault α} {toValue : α → Value}
    (h : ∀ a, item (toValue a) = .ok a) (i : Nat) (items : List α) :
    readItems item i (items.map toValue) = .ok items := by
  induction items generalizing i with
  | nil => rfl
  | cons a items ih =>
    rw [List.map_cons, readItems, h, ih]
    rfl

theorem Layout.ofValue_entries (l : Layout) (located : Bool) :
    ofValue (.table located l.entries) = .ok l := by
  have fonts : list string (.list true (l.soundFonts.map .text)) = .ok l.soundFonts := by
    have read (font : String) : string (.text font) = .ok font := rfl
    exact readItems_map read 0 l.soundFonts
  have samples : list SampleBinding.ofValue (.list true (l.samples.map SampleBinding.value)) =
      .ok l.samples :=
    readItems_map SampleBinding.ofValue_value 0 l.samples
  have set_fonts (l' : Layout) : set l' "soundfonts" (.list true (l.soundFonts.map .text)) =
      .ok { l' with soundFonts := l.soundFonts } := by
    simp only [set, fonts]
    rfl
  have set_samples (l' : Layout) :
      set l' "samples" (.list true (l.samples.map SampleBinding.value)) =
        .ok { l' with samples := l.samples } := by
    simp only [set, samples]
    rfl
  change List.foldlM (fun a e => under e.1 (set a e.2.1 e.2.2)) (⟨[], []⟩ : Layout)
    [(Step.field "soundfonts", "soundfonts", Value.list true (l.soundFonts.map .text)),
      (.field "samples", "samples", .list true (l.samples.map SampleBinding.value))] = _
  simp only [List.foldlM_cons, List.foldlM_nil, under, set_fonts, set_samples, bind, Except.bind]
  rfl

/-! ### Saving and loading -/

theorem Layout.contents_yaml (l : Layout) : contents (Utf8.encode l.yaml) = l.yaml := by
  have no_mark : byteOrderMark.isPrefixOf (Utf8.encode l.yaml) = false := by
    rw [l.yaml_eq]
    rfl
  rw [contents, no_mark, if_neg Bool.false_ne_true, Utf8.decodeLossy_encode]

/-- The text of a layout is read as this layout. -/
theorem Layout.read?_yaml (l : Layout) (keeps : l.Keeps) (foreign : ForeignReader) :
    Format.read? foreign l.yaml .yaml = some (.ok (.table false l.entries)) := by
  rw [Format.read?, l.documents?_yaml keeps, Option.map_some, ofDocuments, l.ofNode_node]
  exact congrArg (some ∘ Except.ok) l.ofTop_entries

/-- A name for YAML files. -/
def FilePath.IsYaml (path : FilePath) : Prop :=
  path.extensionText? = some "yaml".toList ∨ path.extensionText? = some "yml".toList

theorem formatOf?_of_isYaml {path : FilePath} (h : path.IsYaml) : formatOf? path = some .yaml := by
  rw [formatOf?]
  rcases h with h | h <;> rw [h] <;> decide

/-- What holds the text of a layout is loaded as this layout. -/
theorem Layout.load_eq {fs : Files} {path : FilePath} (l : Layout) (keeps : l.Keeps)
    (yaml : path.IsYaml) (stands : fs.open path = .ok (.file (Utf8.encode l.yaml)))
    (foreign : ForeignReader) : Layout.load fs path foreign = .ok l := by
  have file : fileAt? fs path = some (Utf8.encode l.yaml) := by rw [fileAt?, stands]
  have found : find fs path = .ok (path, .yaml, Utf8.encode l.yaml) := by
    rw [find, file, formatOf?_of_isYaml yaml]
  rw [load, Config.load, found]
  simp only [l.contents_yaml, l.read?_yaml keeps foreign, l.ofValue_entries]
  rfl

/-- A layout can be saved wherever a file can be written, and under a name for YAML files what was
saved is loaded again, if every text in it is kept. -/
theorem Layout.load_save {fs : Files} {path : FilePath} (l : Layout) (keeps : l.Keeps)
    (yaml : path.IsYaml) (writable : fs.Writable path) :
    ∃ fs', l.save fs path = .ok fs' ∧
      ∀ foreign : ForeignReader, Layout.load fs' path foreign = .ok l := by
  obtain ⟨fs', written⟩ := writable.write (Utf8.encode l.yaml)
  refine ⟨fs', ?_, l.load_eq keeps yaml (Files.open_of_write_ok written)⟩
  rw [save, written]
  rfl

namespace Layout

/-- Texts that would be taken for something else if they were written as they are, and keys that no
instrument has. -/
def tricky : Layout :=
  ⟨["null", "0x1F", " a: b #", "it's", "two\nlines\n\n", "\t\\\"", "a\u2028 b", ""],
    [⟨"- x", 255, ⟨65535, 200⟩, 130, 3⟩]⟩

theorem load_save_tricky :
    tricky.Keeps ∧ (FilePath.ofText "out.yml").IsYaml ∧
      (Files.mk "/" []).Writable (FilePath.ofText "out.yml") ∧
      ∃ fs, tricky.save (.mk "/" []) (.ofText "out.yml") = .ok fs ∧
        ∀ foreign : ForeignReader, Layout.load fs (.ofText "out.yml") foreign = .ok tricky := by
  have keeps : tricky.Keeps := ⟨by decide, by decide⟩
  have yaml : (FilePath.ofText "out.yml").IsYaml := .inr (by decide)
  have writable : (Files.mk "/" []).Writable (FilePath.ofText "out.yml") := ⟨[], _, rfl⟩
  exact ⟨keeps, yaml, writable, tricky.load_save keeps yaml writable⟩

/-- A line separator in single quotes comes back with the columns of the next line behind it. -/
theorem load_save_separator :
    ((Layout.save (.mk "/" []) (.ofText "out.yaml") ⟨["a\u2028b"], []⟩).bind
      fun fs => Layout.load fs (.ofText "out.yaml")).toOption = some ⟨["a\u2028  b"], []⟩ := by
  decide +kernel

end Layout

end SampleBank
