import SampleBank.Layout.Save
import SampleBank.Proofs.Files
import SampleBank.Proofs.Text.Utf8
import SampleBank.Proofs.Yaml.Document

/-!
# What a saved layout says

The text of a layout is a single YAML document, with the same texts and numbers in it
(`Layout.documents?_yaml`), as long as every text is one that a writer and a reader agree on
(`Layout.Keeps`). The text is followed from member to member, with what stands behind each as a
parameter, because only that shows a reader where the member ends.
-/

namespace SampleBank

open Yaml Yaml.Read

variable {next : List Char} {line index bound fuel : Nat} {lead : Bool}

/-! ### The text of a layout -/

/-- What stands before a text on its line does not matter for the end of the line, unless it breaks
the line itself. -/
theorem endLine_behind {front : List Char} (h : front.getLast?.any isBreak = false)
    (cs : List Char) : endLine (front ++ cs) = front ++ endLine cs := by
  cases last : cs.getLast? with
  | none =>
    obtain rfl := List.getLast?_eq_none_iff.1 last
    rw [List.append_nil, endLine, h]
    rfl
  | some c =>
    rw [endLine, endLine, List.getLast?_append, last, Option.some_or]
    split
    · rfl
    · rw [List.append_assoc]

/-- A key with a number as its value, and what stands behind the line. -/
def numberText (key : String) (n : Nat) (next : List Char) : List Char :=
  key.toList ++ ':' :: ' ' :: (Nat.toDigits 10 n ++ '\n' :: next)

/-- The line of a number is its key and the number, two columns in. -/
theorem numberLine_append (key : String) (n : Nat) (next : List Char) :
    numberLine key n ++ next = List.replicate 2 ' ' ++ numberText key n next := by
  change ("  " ++ key ++ ": " ++ toString n ++ "\n").toList ++ next = _
  simp [numberText, List.replicate]

/-- The keys of a sample in a file, from the name of the member on. -/
def SampleBinding.keysText (b : SampleBinding) (next : List Char) : List Char :=
  "keys".toList ++ ':' :: '\n' :: (List.replicate 2 ' ' ++
    '-' :: ' ' :: (Nat.toDigits 10 b.lokey.toNat ++ '\n' :: (List.replicate 2 ' ' ++
      '-' :: ' ' :: (Nat.toDigits 10 b.hikey.toNat ++ '\n' :: next))))

/-- A sample as it is written behind its hyphen, and what stands behind it. -/
def SampleBinding.membersText (b : SampleBinding) (next : List Char) : List Char :=
  "file".toList ++ ':' :: ' ' :: (endLine (scalarText 4 b.file.toList) ++ (List.replicate 2 ' ' ++
    numberText "root_key" b.rootKey.toNat (List.replicate 2 ' ' ++
      numberText "bank" b.program.bank.toNat (List.replicate 2 ' ' ++
        numberText "preset" b.program.preset.toNat (List.replicate 2 ' ' ++ b.keysText next)))))

/-- A sample is an item whose members stand behind its hyphen. -/
theorem SampleBinding.yaml_append (b : SampleBinding) (next : List Char) :
    b.yaml ++ next = '-' :: ' ' :: b.membersText next := by
  have keys : s!"  keys:\n  - {b.lokey.toNat}\n  - {b.hikey.toNat}\n".toList ++ next =
      List.replicate 2 ' ' ++ b.keysText next := by
    change ("  keys:\n  - " ++ toString b.lokey.toNat ++ "\n  - " ++ toString b.hikey.toNat ++
      "\n").toList ++ next = _
    simp [keysText, List.replicate]
  have file : endLine ("- file: ".toList ++ scalarText 4 b.file.toList) =
      "- file: ".toList ++ endLine (scalarText 4 b.file.toList) := endLine_behind (by decide) _
  rw [yaml, file]
  simp only [List.append_assoc]
  rw [keys]
  simp only [numberLine_append]
  rfl

theorem SampleBinding.yaml_eq (b : SampleBinding) : b.yaml = '-' :: ' ' :: b.membersText [] := by
  have := b.yaml_append []
  rwa [List.append_nil] at this

/-- What stands behind the members of a sample can be read as part of their text. -/
theorem SampleBinding.membersText_append (b : SampleBinding) (next : List Char) :
    b.membersText [] ++ next = b.membersText next := by
  have := b.yaml_append next
  rw [yaml_eq] at this
  exact (List.cons.inj (List.cons.inj this).2).2

/-- A SoundFont as it is written behind its hyphen. -/
def fontValueText (font : String) : List Char := endLine (scalarText 2 font.toList)

theorem fontText_eq (font : String) : Layout.fontText font = '-' :: ' ' :: fontValueText font :=
  endLine_behind (by decide) _

/-- All keys of layouts and samples can be read without quotes. -/
theorem keyText_of_mem :
    ∀ key ∈ Layout.record.keys ++ SampleBinding.record.keys, KeyText key.toList := by
  have style : ∀ key ∈ Layout.record.keys ++ SampleBinding.record.keys,
      Style.of key.toList = .plain := by decide
  have letters : ∀ key ∈ Layout.record.keys ++ SampleBinding.record.keys,
      (key.toList.all fun c => isSpace c = false ∧ c ≠ ':') = true ∧
        (key.toList.head?.all fun c => c ≠ '#' ∧ c ≠ '-' ∧ c ≠ '.' ∧ c ≠ '%') = true ∧
        key.toList.length ≤ maxKeyLength := by decide
  intro key mem
  obtain ⟨word, letter, short⟩ := letters key mem
  exact ⟨(Style.plainText (style key mem)).starts,
    fun c at_c => of_decide_eq_true (List.all_eq_true.1 word c at_c),
    fun c first => of_decide_eq_true (Option.all_eq_true _ _ |>.1 letter c first),
    Style.ofPlain_eq (style key mem), short⟩

/-! ### The node of a layout -/

/-- A sample as a node. -/
def SampleBinding.node (b : SampleBinding) : Node :=
  .map [(.text "file".toList, .text b.file.toList),
    (.text "root_key".toList, .integer b.rootKey.toNat),
    (.text "bank".toList, .integer b.program.bank.toNat),
    (.text "preset".toList, .integer b.program.preset.toNat),
    (.text "keys".toList, .list [.integer b.lokey.toNat, .integer b.hikey.toNat])]

/-- A byte is no number that a reader finds too large. -/
theorem toNat_le_maxInt (n : UInt8) : (n.toNat : Int) ≤ Numeral.maxInt := by
  have := n.toNat_lt
  unfold Numeral.maxInt
  omega

/-- Nor are two bytes. -/
theorem toNat16_le_maxInt (n : UInt16) : (n.toNat : Int) ≤ Numeral.maxInt := by
  have := n.toNat_lt
  unfold Numeral.maxInt
  omega

/-- The keys of a sample are the last of its members. -/
theorem ends_keys (b : SampleBinding) (token : Token next) :
    Ends (blockEntries 2 (fuel + 7)) ⟨b.keysText next, line, 2, index, lead⟩
      [.text "keys".toList, .list [.integer b.lokey.toNat, .integer b.hikey.toNat]] next 0 := by
  have hyphen (rest : List Char) : Token ('-' :: rest) := token_cons (by decide)
  have digits (n : Nat) (rest : List Char) : Token (Nat.toDigits 10 n ++ rest) :=
    (plainText_toDigits n).token rest
  let last := Nat.toDigits 10 b.hikey.toNat ++ '\n' :: next
  have last_item (line index : Nat) : Ends (blockItems 2 true (fuel + 3))
      ⟨'-' :: ' ' :: last, line, 2, index, true⟩ [.integer b.hikey.toNat] next 0 := by
    refine .last_item (digits _ _) token (fun bound _ => ?_) (.inr (.inl (by decide)))
    exact ends_number b.hikey.toNat (toNat_le_maxInt _) token (by decide) (by decide)
      (Cursor.leadsTo_self (digits _ _))
  have items (line index : Nat) : Ends (blockItems 2 true (fuel + 4))
      ⟨'-' :: ' ' :: (Nat.toDigits 10 b.lokey.toNat ++
        '\n' :: (List.replicate 2 ' ' ++ '-' :: ' ' :: last)), line, 2, index, true⟩
      [.integer b.lokey.toNat, .integer b.hikey.toNat] next 0 := by
    refine .item (digits _ _) (fun bound _ => ?_) last_item
    exact ends_number b.lokey.toNat (toNat_le_maxInt _) (hyphen _) (by decide) (by decide)
      (Cursor.leadsTo_self (digits _ _))
  exact .entries (keyText_of_mem "keys" (by decide)) (.inr rfl)
    (.entry (.inr rfl) (.list (items _ _) (Cursor.leadsTo_newline (hyphen _)))
      fun line index => ends_no_entries token (.inr (by decide)))

/-- A sample is read up to the token behind it. -/
theorem ends_sample (b : SampleBinding) (kept : Kept b.file.toList) (token : Token next) :
    Ends (blockValue 1 bound false (fuel + 16) true .none)
      ⟨b.membersText next, line, 2, index, false⟩ b.node next 0 := by
  have key (name : String) (mem : name ∈ Layout.record.keys ++ SampleBinding.record.keys) :
      KeyText name.toList := keyText_of_mem name mem
  have others (line index : Nat) : Ends (blockEntries 2 (fuel + 13))
      ⟨numberText "root_key" b.rootKey.toNat (List.replicate 2 ' ' ++
        numberText "bank" b.program.bank.toNat (List.replicate 2 ' ' ++
          numberText "preset" b.program.preset.toNat (List.replicate 2 ' ' ++ b.keysText next))),
        line, 2, index, true⟩
      [.text "root_key".toList, .integer b.rootKey.toNat, .text "bank".toList,
        .integer b.program.bank.toNat, .text "preset".toList, .integer b.program.preset.toNat,
        .text "keys".toList, .list [.integer b.lokey.toNat, .integer b.hikey.toNat]] next 0 := by
    refine .number_entry (key "root_key" (by decide)) _ (toNat_le_maxInt _)
      ((key "bank" (by decide)).token _) fun line index => ?_
    refine .number_entry (key "bank" (by decide)) _ (toNat16_le_maxInt _)
      ((key "preset" (by decide)).token _) fun line index => ?_
    refine .number_entry (key "preset" (by decide)) _ (toNat_le_maxInt _)
      ((key "keys" (by decide)).token _) fun line index => ?_
    exact ends_keys b token
  refine .blockValue (Cursor.leadsTo_self ((key "file" (by decide)).token _)) (Nat.le_succ 1)
    ((key "file" (by decide)).atDocumentEnd _) ((key "file" (by decide)).inline _).property ?_
  refine .map (key "file" (by decide)) (.inl rfl) (.entry (.inl rfl) ?_ others) rfl
  refine ends_text kept ((key "root_key" (by decide)).token _)
    ((key "root_key" (by decide)).append_ne_nil _) (by decide) (by decide) (by decide)
    (Cursor.leadsTo_space (token_text 4 _ _))

/-- The value of a member of a layout, from the colon on. -/
def listValueText {α : Type} (item : α → List Char) (items : List α) : List Char :=
  if items.isEmpty then " []\n".toList else '\n' :: items.flatMap item

/-- A list is its key and a colon, and then what is written behind that. -/
theorem listText_append {α : Type} (key : String) (item : α → List Char) (items : List α)
    (next : List Char) :
    Layout.listText key item items ++ next =
      key.toList ++ ':' :: (listValueText item items ++ next) := by
  rw [Layout.listText, listValueText, List.append_assoc]
  split <;> rfl

/-- Behind the colon of a list stands a space or a line end. -/
theorem gap_listValueText {α : Type} (item : α → List Char) (items : List α) (next : List Char) :
    Gap (listValueText item items ++ next) := by
  rw [listValueText]
  split
  · exact .inl rfl
  · exact .inr rfl

/-- A list is read up to the next member of the layout. -/
theorem ends_listValue {α : Type} {write : α → List Char} {toNode : α → Node} {few col : Nat}
    {items : List α} (token : Token next) (no_item : next.head? ≠ some '-')
    (tokens : ∀ a ∈ items, ∀ next, Token (write a ++ next))
    (item : ∀ a ∈ items, ∀ rest, (rest = next ∨ ∃ later, rest = '-' :: ' ' :: later) →
      ∀ fuel bound line index, few ≤ fuel → bound ≤ 1 →
        Ends (blockValue 1 bound false fuel true .none)
          ⟨write a ++ rest, line, 2, index, false⟩ (toNode a) rest 0)
    (enough : items.length + few + 2 ≤ fuel) :
    Ends (blockValue 1 1 true fuel false .none)
      ⟨listValueText (fun a => '-' :: ' ' :: write a) items ++ next, line, col, index, false⟩
      (.list (items.map toNode)) next 0 := by
  obtain ⟨fuel, rfl⟩ : ∃ n, fuel = n + 2 := ⟨fuel - 2, by omega⟩
  cases items with
  | nil =>
    exact ends_brackets token Nat.one_pos (Nat.le_add_left 1 col)
      (Cursor.leadsTo_space (token_cons (by decide)))
  | cons a items =>
    exact .list (ends_items token no_item (List.cons_ne_nil a items) tokens item (by omega))
      (Cursor.leadsTo_newline (k := 0) (token_cons (by decide)))

/-- An item of a list is a token, and so is what follows the list. -/
theorem token_item {rest : List Char} (token : Token next)
    (h : rest = next ∨ ∃ later, rest = '-' :: ' ' :: later) : Token rest := by
  rcases h with rfl | ⟨later, rfl⟩
  · exact token
  · exact token_cons (by decide)

/-- The SoundFonts of a layout are read up to the key behind them. -/
theorem ends_fonts {fonts : List String} {col : Nat} (kept : ∀ font ∈ fonts, Kept font.toList)
    (token : Token next) (no_item : next.head? ≠ some '-') (more : next ≠ [])
    (enough : fonts.length + 4 ≤ fuel) :
    Ends (blockValue 1 1 true fuel false .none)
      ⟨listValueText (fun font => '-' :: ' ' :: fontValueText font) fonts ++ next,
        line, col, index, false⟩
      (.list (fonts.map fun font => .text font.toList)) next 0 := by
  refine ends_listValue token no_item (fun font _ next => token_text 2 _ next)
    (fun font mem rest follows fuel bound line index few bounded => ?_) enough
  obtain ⟨fuel, rfl⟩ : ∃ n, fuel = n + 2 := ⟨fuel - 2, by omega⟩
  have goes_on : rest ≠ [] := by
    rcases follows with rfl | ⟨later, rfl⟩
    · exact more
    · exact List.cons_ne_nil _ _
  exact ends_text (kept font mem) (token_item token follows) goes_on Nat.one_pos (Nat.le_succ 1)
    (Nat.le_succ_of_le bounded) (Cursor.leadsTo_self (token_text 2 _ _))

/-- The samples of a layout are read up to the end. -/
theorem ends_samples {samples : List SampleBinding} {col : Nat}
    (kept : ∀ b ∈ samples, Kept b.file.toList) (token : Token next)
    (no_item : next.head? ≠ some '-') (enough : samples.length + 18 ≤ fuel) :
    Ends (blockValue 1 1 true fuel false .none)
      ⟨listValueText (fun b => '-' :: ' ' :: b.membersText []) samples ++ next,
        line, col, index, false⟩
      (.list (samples.map SampleBinding.node)) next 0 := by
  refine ends_listValue token no_item
    (fun b _ next => (keyText_of_mem "file" (by decide)).token _)
    (fun b mem rest follows fuel bound line index few bounded => ?_) enough
  obtain ⟨fuel, rfl⟩ : ∃ n, fuel = n + 16 := ⟨fuel - 16, by omega⟩
  rw [b.membersText_append]
  exact ends_sample b (kept b mem) (token_item token follows)

/-- A layout as a node. -/
def Layout.node (l : Layout) : Node :=
  .map [(.text "soundfonts".toList, .list (l.soundFonts.map fun font => .text font.toList)),
    (.text "samples".toList, .list (l.samples.map SampleBinding.node))]

/-- A layout whose texts do not change if they are written and read. -/
structure Layout.Keeps (l : Layout) : Prop where
  soundFonts : ∀ font ∈ l.soundFonts, Kept font.toList
  samples : ∀ b ∈ l.samples, Kept b.file.toList

/-- The text of a layout, with what stands behind each of its parts. -/
theorem Layout.yaml_eq (l : Layout) :
    l.yaml = "soundfonts".toList ++
      ':' :: (listValueText (fun font => '-' :: ' ' :: fontValueText font) l.soundFonts ++
        ("samples".toList ++
          ':' :: (listValueText (fun b => '-' :: ' ' :: b.membersText []) l.samples ++ []))) := by
  have fonts : Layout.fontText = fun font => '-' :: ' ' :: fontValueText font := funext fontText_eq
  have samples : SampleBinding.yaml = fun b => '-' :: ' ' :: b.membersText [] :=
    funext SampleBinding.yaml_eq
  rw [yaml, ← List.append_nil (listText "samples" _ _), listText_append, listText_append, fonts,
    samples]

/-- A list has no more items than characters, so that the reader has fuel for each item. -/
theorem length_le_listValueText {α : Type} {item : α → List Char} (h : ∀ a, item a ≠ [])
    (items : List α) : items.length ≤ (listValueText item items).length := by
  rw [listValueText]
  cases items with
  | nil => exact Nat.zero_le _
  | cons a items =>
    exact Nat.le_succ_of_le (length_le_flatMap fun a _ => h a)

/-- There is enough text for the reader to take a step for every item. -/
theorem Layout.length_le (l : Layout) :
    l.soundFonts.length + l.samples.length + 10 ≤ l.yaml.length := by
  have fonts := length_le_listValueText
    (fun font => List.cons_ne_nil '-' (' ' :: fontValueText font)) l.soundFonts
  have samples := length_le_listValueText
    (fun b => List.cons_ne_nil '-' (' ' :: SampleBinding.membersText b [])) l.samples
  have first : "soundfonts".toList.length = 10 := by decide
  rw [l.yaml_eq]
  simp only [List.length_append, List.length_cons, first]
  omega

/-- The text of a layout is read to its end, as a map of two lists. -/
theorem ends_layout (l : Layout) (keeps : l.Keeps) :
    Ends (documentNode true) ⟨l.yaml, 0, 0, 0, true⟩ l.node [] 0 := by
  have key (name : String) (mem : name ∈ Layout.record.keys ++ SampleBinding.record.keys) :
      KeyText name.toList := keyText_of_mem name mem
  have first := key "soundfonts" (by decide)
  have second := key "samples" (by decide)
  have length_le := l.length_le
  obtain ⟨fuel, fuel_eq⟩ : ∃ n, 8 * (l.yaml.length + 2) = n + 6 := ⟨8 * l.yaml.length + 10, rfl⟩
  have samples (line index : Nat) : Ends (blockEntries 0 (fuel + 3))
      ⟨"samples".toList ++
        ':' :: (listValueText (fun b => '-' :: ' ' :: b.membersText []) l.samples ++ []),
        line, 0, index, true⟩
      [.text "samples".toList, .list (l.samples.map SampleBinding.node)] [] 0 :=
    .entries second (gap_listValueText _ _ _) (.entry (gap_listValueText _ _ _)
      (ends_samples keeps.samples token_nil (by decide) (by omega))
      fun line index => ends_no_entries token_nil (.inl rfl))
  have document : Ends (blockValue 0 0 false (fuel + 6) true .none) ⟨l.yaml, 0, 0, 0, true⟩
      l.node [] 0 := by
    rw [l.yaml_eq]
    refine .blockValue (Cursor.leadsTo_self (first.token _)) (Nat.le_refl 0) (first.atDocumentEnd _)
      (first.inline _).property ?_
    refine .map first (gap_listValueText _ _ _) (.entry (gap_listValueText _ _ _) ?_ samples) rfl
    exact ends_fonts keeps.soundFonts (second.token _) (second.no_item _) (second.append_ne_nil _)
      (by omega)
  rw [documentNode]
  refine (runs_cursor _).bind_ends ?_
  rw [fuel_eq]
  exact document

/-! ### The characters of a layout -/

theorem clean_digits (n : Nat) : Clean (Nat.toDigits 10 n) := fun c mem => by
  have digit := Numeral.isDigit_of_mem_toDigits mem
  exact ⟨Numeral.ne_of_isDigit digit (by decide), Numeral.ne_of_isDigit digit (by decide)⟩

/-- A line that is ended has only a line feed more. -/
theorem clean_endLine {cs : List Char} (h : Clean cs) : Clean (endLine cs) := by
  rw [endLine]
  split
  · exact h
  · exact h.append (.cons (by decide) clean_nil)

/-- No key has a carriage return or a null character in it. -/
theorem clean_key :
    ∀ key ∈ Layout.record.keys ++ SampleBinding.record.keys, Clean key.toList := by decide

/-- Numbers with their keys are clean in front of clean text. -/
theorem clean_numberText {key : String}
    (mem : key ∈ Layout.record.keys ++ SampleBinding.record.keys) (n : Nat) (h : Clean next) :
    Clean (numberText key n next) :=
  (clean_key key mem).append (.cons (by decide) (.cons (by decide)
    ((clean_digits n).append (.cons (by decide) h))))

theorem clean_keysText (b : SampleBinding) (h : Clean next) : Clean (b.keysText next) := by
  have item (n : Nat) {next : List Char} (h : Clean next) : Clean (List.replicate 2 ' ' ++
      '-' :: ' ' :: (Nat.toDigits 10 n ++ '\n' :: next)) :=
    (clean_replicate (by decide) 2).append (.cons (by decide) (.cons (by decide)
      ((clean_digits n).append (.cons (by decide) h))))
  exact (clean_key "keys" (by decide)).append
    (.cons (by decide) (.cons (by decide) (item _ (item _ h))))

/-- A sample is clean in front of clean text, whatever its file is called. -/
theorem clean_membersText (b : SampleBinding) (h : Clean next) : Clean (b.membersText next) := by
  have spaces : Clean (List.replicate 2 ' ') := clean_replicate (by decide) 2
  refine (clean_key "file" (by decide)).append (.cons (by decide) (.cons (by decide)
    ((clean_endLine (clean_scalarText 4 _)).append (spaces.append ?_))))
  exact clean_numberText (by decide) _ (spaces.append (clean_numberText (by decide) _
    (spaces.append (clean_numberText (by decide) _ (spaces.append (clean_keysText b h))))))

/-- A list of clean items is clean. -/
theorem clean_listValueText {α : Type} {item : α → List Char} (h : ∀ a, Clean (item a))
    (items : List α) : Clean (listValueText item items) := by
  rw [listValueText]
  split
  · exact (by decide : Clean " []\n".toList)
  · refine .cons (by decide) fun c mem => ?_
    obtain ⟨a, -, mem⟩ := List.mem_flatMap.1 mem
    exact h a c mem

/-- Whatever the texts of a layout are, its file has no carriage returns and no null characters. -/
theorem Layout.clean_yaml (l : Layout) : Clean l.yaml := by
  rw [l.yaml_eq]
  refine (clean_key "soundfonts" (by decide)).append (.cons (by decide) (.append ?_
    ((clean_key "samples" (by decide)).append (.cons (by decide) (.append ?_ clean_nil)))))
  · exact clean_listValueText (fun font => .cons (by decide) (.cons (by decide)
      (clean_endLine (clean_scalarText 2 _)))) _
  · exact clean_listValueText (fun b => .cons (by decide) (.cons (by decide)
      (clean_membersText b clean_nil))) _

/-- The text of a layout is read as a single document. -/
theorem Layout.documents?_yaml (l : Layout) (keeps : l.Keeps) :
    documents? l.yaml = some [l.node] := by
  have clean := l.clean_yaml
  have read := ends_layout l keeps
  rw [l.yaml_eq] at clean read ⊢
  exact documents?_eq (keyText_of_mem "soundfonts" (by decide)) clean read

end SampleBank
