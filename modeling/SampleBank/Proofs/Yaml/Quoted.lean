import Mathlib.Algebra.Group.Nat.Defs
import SampleBank.Proofs.Text.Number
import SampleBank.Proofs.Yaml.Reader
import SampleBank.Proofs.Yaml.Style

/-!
# Quoted scalars that are read back

Between quotes a writer replaces characters one by one, and a reader takes one character back for
each of them (`Quotes`): in single quotes every character but the quote stands for itself, in double
quotes some are escaped, by a letter or by their number. No line is folded, so the reader goes from
word to word within one line (`quotedInside_eq`).
-/

namespace SampleBank.Yaml

variable {cs rest tail : List Char} {line col index bound : Nat}

/-! ### Escaped characters -/

theorem length_paddedHex {width n : Nat} (pos : 0 < width) (h : n < 16 ^ width) :
    (paddedHex width n).length = width := by
  have short : (Nat.toDigits 16 n).length ≤ width :=
    (Nat.length_toDigits_le_iff (by decide) pos).2 h
  rw [paddedHex, List.length_append, List.length_replicate, List.length_map]
  omega

theorem natural?_paddedHex (width n : Nat) : Numeral.natural? 16 (paddedHex width n) = some n := by
  have read : Numeral.digits? 16 0 (paddedHex width n) = some n := by
    rw [paddedHex, Numeral.digits?_replicate_zero (by decide)]
    exact Numeral.digits?_map_toDigits Char.toUpper (by decide)
      (fun d h => (Numeral.digit?_digitChar 16 (by decide) d h).2) n
  have not_empty : paddedHex width n ≠ [] := by
    rw [paddedHex]
    simp
  rw [Numeral.natural?, if_neg not_empty, read]

theorem charAt?_toNat (c : Char) : charAt? c.toNat = some c := by
  rw [charAt?, if_pos (show c.toNat.isValidChar from c.valid), Char.ofNat_toNat]

/-- A number in the place of a character. -/
theorem escapeSequence?_hex {c letter : Char} {width : Nat} (pos : 0 < width)
    (letter_eq : escapeLength? letter = some width) (h : c.toNat < 16 ^ width) (rest : List Char) :
    escapeSequence? (letter :: paddedHex width c.toNat ++ rest) = some (c, width + 1) := by
  have length_eq := length_paddedHex pos h
  rw [List.cons_append, escapeSequence?, letter_eq]
  simp only [List.length_append, length_eq, Nat.not_lt.2 (Nat.le_add_right width _), if_false,
    List.take_left' length_eq, natural?_paddedHex, Option.bind_some, charAt?_toNat,
    Option.map_some]

theorem escape?_of_letter : ∀ p ∈ escapeLetters,
    escapeLength? p.2 = none ∧ escape? p.2 = some p.1 ∧ p.2 ≠ '\n' := by
  decide

/-- What stands behind the backslash of an escaped character. -/
theorem exists_escaped (c : Char) :
    ∃ letter code, escaped c = '\\' :: letter :: code ∧ letter ≠ '\n' ∧
      ∀ rest, escapeSequence? (letter :: code ++ rest) = some (c, code.length + 1) := by
  have hex {width : Nat} {letter : Char} (pos : 0 < width)
      (letter_eq : escapeLength? letter = some width) (h : c.toNat < 16 ^ width) :
      ∃ letter' code, '\\' :: letter :: paddedHex width c.toNat = '\\' :: letter' :: code ∧
        letter' ≠ '\n' ∧
        ∀ rest, escapeSequence? (letter' :: code ++ rest) = some (c, code.length + 1) := by
    refine ⟨_, _, rfl, ?_, fun rest => ?_⟩
    · rintro rfl
      cases letter_eq
    · rw [escapeSequence?_hex pos letter_eq h, length_paddedHex pos h]
  rw [escaped]
  cases found : escapeLetters.lookup c with
  | some letter =>
    have known : escapeLength? letter = none ∧ escape? letter = some c ∧ letter ≠ '\n' := by
      obtain ⟨before, after, letters, -⟩ := List.lookup_eq_some_iff.1 found
      exact escape?_of_letter (c, letter) (by rw [letters]; simp)
    refine ⟨letter, [], rfl, known.2.2, fun rest => ?_⟩
    rw [List.singleton_append, escapeSequence?, known.1]
    simp only [known.2.1, Option.map_some, List.length_nil, Nat.zero_add]
  | none =>
    have small : c.toNat < 0x110000 := by
      have : c.toNat < 0xD800 ∨ 0xDFFF < c.toNat ∧ c.toNat < 0x110000 := c.valid
      omega
    dsimp only
    split
    · exact hex (by decide) rfl ‹_›
    split
    · exact hex (by decide) rfl ‹_›
    · exact hex (by decide) rfl (by omega)

/-! ### Parts of quoted scalars -/

/-- Between these quotes a character is written in a way that is read as this character alone. -/
structure Quotes (quote : Char) (write : Char → List Char) (c : Char) : Prop where
  starts : ∃ d rest, write c = d :: rest ∧ isSpace d = false
  reads : ∀ fuel rest line col index, quotedPart quote (fuel + 1)
    ⟨write c ++ rest, line, col, index, false⟩ =
      (quotedPart quote fuel
        ⟨rest, line, col + (write c).length, index + (write c).length, false⟩).map
          fun part => { part with text := c :: part.text }

theorem Quotes.of_more {quote c : Char} {write : Char → List Char}
    (starts : ∃ d rest, write c = d :: rest ∧ isSpace d = false)
    (more : ∀ fuel rest line col index, quotedPart quote (fuel + 1)
      ⟨write c ++ rest, line, col, index, false⟩ =
        (quotedPart quote fuel
          (Cursor.chars (write c).length ⟨write c ++ rest, line, col, index, false⟩)).map
            fun part => { part with text := c :: part.text }) : Quotes quote write c := by
  refine ⟨starts, fun fuel rest line col index => ?_⟩
  rw [more, Cursor.chars_append rfl]

/-- A character that is written as it is and means nothing else. -/
theorem Quotes.of_self {quote c : Char} {write : Char → List Char} (self : write c = [c])
    (not_space : isSpace c = false) (ne_quote : c ≠ quote) (ne_escape : c = '\\' → quote ≠ '"') :
    Quotes quote write c := by
  refine .of_more ⟨c, [], self, not_space⟩ fun fuel rest line col index => ?_
  rw [self, List.singleton_append, quotedPart]
  have plain : ¬(c = '\\' ∧ quote = '"') := fun h => ne_escape h.1 h.2
  simp only [not_space, ne_quote, plain, Bool.false_eq_true, if_false, List.length_singleton]
  cases quotedPart quote fuel _ <;> rfl

theorem quotes_single {c : Char} (h : isSpace c = false) : Quotes '\'' inSingle c := by
  by_cases quote : c = '\''
  · subst quote
    refine .of_more ⟨_, _, rfl, by decide⟩ fun fuel rest line col index => ?_
    have twice : inSingle '\'' = ['\'', '\''] := rfl
    rw [twice, List.cons_append, List.singleton_append, quotedPart]
    simp only [h, Bool.false_eq_true, if_false, List.head?_cons, and_self, if_true,
      List.length_cons, List.length_nil, Nat.zero_add]
    cases quotedPart '\'' fuel _ <;> rfl
  · exact .of_self (if_neg quote) h quote fun _ => by decide

theorem quotes_double {c : Char} (h : c ≠ ' ') : Quotes '"' inDouble c := by
  by_cases escape : (!isWritable c || isBreak c || c = '"' || c = '\\') = true
  · obtain ⟨letter, code, escaped_eq, not_break, reads⟩ := exists_escaped c
    have write_eq : inDouble c = '\\' :: letter :: code := by
      rw [inDouble, if_pos escape, escaped_eq]
    refine .of_more ⟨_, _, write_eq, by decide⟩ fun fuel rest line col index => ?_
    have goes_on : ¬(letter :: code ++ rest).head? = some '\n' := fun h =>
      not_break (Option.some.inj h)
    rw [write_eq, List.cons_append, quotedPart]
    simp only [reads, goes_on, if_false, List.length_cons, show isSpace '\\' = false by decide,
      Bool.false_eq_true, show ('\\' : Char) ≠ '"' by decide, and_self, if_true]
    cases quotedPart '"' fuel _ <;> rfl
  · have plain := escape
    simp only [Bool.or_eq_true, Bool.not_eq_true', decide_eq_true_eq, not_or,
      Bool.not_eq_false, Bool.not_eq_true] at plain
    obtain ⟨⟨⟨writable, not_break⟩, not_quote⟩, not_escape⟩ := plain
    have not_space : isSpace c = false := by
      refine Bool.eq_false_iff.2 fun space => h ((isSpace_iff ⟨?_, ?_⟩).1 space)
      · rintro rfl
        cases not_break
      · exact (ne_of_isWritable writable).1
    exact .of_self (if_neg escape) not_space not_quote fun h => absurd h not_escape

section

variable {quote : Char} {write : Char → List Char}

/-- Whether no part goes on with this text. -/
def PartEnds (quote : Char) (rest : List Char) : Prop :=
  ∀ fuel line col index, quotedPart quote fuel ⟨rest, line, col, index, false⟩ =
    some ⟨[], ⟨rest, line, col, index, false⟩, false⟩

theorem partEnds_spaces (j : Nat) (rest : List Char) :
    PartEnds quote (List.replicate (j + 1) ' ' ++ rest) := by
  intro fuel line col index
  cases fuel <;> rfl

/-- A part ends at the closing quote, if the line ends behind it. -/
theorem partEnds_quote (not_space : isSpace quote = false) (rest : List Char) :
    PartEnds quote (quote :: '\n' :: rest) := by
  intro fuel line col index
  cases fuel with
  | zero => rfl
  | succ fuel =>
    rw [quotedPart]
    simp [not_space]

/-- A word is read up to where a part ends. -/
theorem quotedPart_word {word : List Char} (word_quotes : ∀ c ∈ word, Quotes quote write c)
    {rest : List Char} (ends : PartEnds quote rest) {fuel : Nat} (enough : word.length ≤ fuel) :
    quotedPart quote fuel ⟨word.flatMap write ++ rest, line, col, index, false⟩ =
      some ⟨word, ⟨rest, line, col + (word.flatMap write).length,
        index + (word.flatMap write).length, false⟩, false⟩ := by
  induction word generalizing fuel col index with
  | nil => exact ends ..
  | cons c word ih =>
    rw [List.forall_mem_cons] at word_quotes
    obtain ⟨fuel, rfl⟩ : ∃ n, fuel = n + 1 := ⟨fuel - 1, by rw [List.length_cons] at enough; omega⟩
    rw [List.flatMap_cons, List.append_assoc, word_quotes.1.reads,
      ih word_quotes.2 (Nat.le_of_succ_le_succ enough), Option.map_some, List.length_append,
      Nat.add_assoc, Nat.add_assoc]

theorem quotedGap_end {fuel : Nat} {blanks : List Char} {s : Cursor}
    (word : ∀ c ∈ s.rest.head?, isSpace c = false) :
    quotedGap bound false fuel 0 blanks s = some (blanks.reverse, s) := by
  cases fuel with
  | zero => rfl
  | succ fuel =>
    unfold quotedGap
    split
    · rename_i eq
      exact absurd (word '\n' (by rw [eq]; rfl)) (by decide)
    · rename_i c _ _ eq
      rw [(isBlank_of_isSpace_eq_false (word c (by rw [eq]; rfl))).1]
      rfl
    · rfl

/-- Spaces between quotes are kept. -/
theorem quotedGap_spaces {j fuel : Nat} {blanks rest : List Char}
    (word : ∀ c ∈ rest.head?, isSpace c = false) (enough : j ≤ fuel) :
    quotedGap bound false fuel 0 blanks
        ⟨List.replicate j ' ' ++ rest, line, col, index, false⟩ =
      some (blanks.reverse ++ List.replicate j ' ',
        ⟨rest, line, col + j, index + j, false⟩) := by
  induction j generalizing fuel blanks col index with
  | zero =>
    rw [List.replicate_zero, List.append_nil]
    exact quotedGap_end word
  | succ j ih =>
    obtain ⟨fuel, rfl⟩ : ∃ n, fuel = n + 1 := ⟨fuel - 1, by omega⟩
    rw [List.replicate_succ, List.cons_append, quotedGap]
    refine (ih (Nat.le_of_succ_le_succ enough)).trans ?_
    rw [List.reverse_cons, List.append_assoc, List.singleton_append, Nat.add_assoc,
      Nat.add_comm 1 j, Nat.add_assoc, Nat.add_comm 1 j]

/-! ### Whole scalars -/

theorem flatMap_spaces (space : write ' ' = [' ']) (j : Nat) :
    (List.replicate j ' ').flatMap write = List.replicate j ' ' := by
  induction j with
  | zero => rfl
  | succ j ih => rw [List.replicate_succ, List.flatMap_cons, space, ih, List.singleton_append]

theorem length_le_flatMap {α : Type} {items : List α} {write : α → List Char}
    (h : ∀ a ∈ items, write a ≠ []) : items.length ≤ (items.flatMap write).length := by
  induction items with
  | nil => exact Nat.le_refl 0
  | cons a items ih =>
    rw [List.forall_mem_cons] at h
    have := ih h.2
    have := List.length_pos_iff.2 h.1
    rw [List.flatMap_cons, List.length_append, List.length_cons]
    omega

theorem Quotes.ne_nil {c : Char} (h : Quotes quote write c) : write c ≠ [] := by
  obtain ⟨d, rest, write_eq, -⟩ := h.starts
  rw [write_eq]
  exact List.cons_ne_nil d rest

/-- The reader goes from part to part; one is a word and what ends it. -/
theorem quotedInside_word {word : List Char} (quotes : ∀ c ∈ word, Quotes quote write c)
    {rest : List Char} (more : rest ≠ []) (ends : PartEnds quote rest) (inside : bound ≤ col)
    (pos : 0 < col) (fuel : Nat) :
    quotedInside quote bound (fuel + 1) ⟨word.flatMap write ++ rest, line, col, index, false⟩ =
      if rest.head? = some quote then
        some (word, Cursor.chars 1 ⟨rest, line, col + (word.flatMap write).length,
          index + (word.flatMap write).length, false⟩)
      else
        match quotedGap bound false (rest.length + 1) 0 [] ⟨rest, line,
          col + (word.flatMap write).length, index + (word.flatMap write).length, false⟩ with
        | none => none
        | some (gap, s) =>
          (quotedInside quote bound fuel s).map fun (later, s) => (word ++ gap ++ later, s) := by
  have enough : word.length ≤ (word.flatMap write ++ rest).length + 1 := by
    have := length_le_flatMap fun c mem => (quotes c mem).ne_nil
    rw [List.length_append]
    omega
  have goes_on : ((Cursor.mk (word.flatMap write ++ rest) line col index false).atDocumentMark ||
      (Cursor.mk (word.flatMap write ++ rest) line col index false).atEnd ||
      decide (col < bound)) = false := by
    rw [Cursor.atDocumentMark_eq_false pos, Cursor.atEnd,
      List.isEmpty_eq_false_iff.2 (List.append_ne_nil_of_right_ne_nil _ more),
      decide_eq_false (Nat.not_lt.2 inside)]
    rfl
  rw [quotedInside, goes_on, if_neg Bool.false_ne_true, quotedPart_word quotes ends enough]
  dsimp only
  split
  · rfl
  · cases quotedGap bound false _ 0 [] _ with
    | none => rfl
    | some passed => cases eq : quotedInside quote bound fuel passed.2 <;> simp only [eq] <;> rfl

/-- A word with spaces behind it is read together with them. -/
theorem quotedInside_spaces {word rest : List Char} {j : Nat}
    (quotes : ∀ c ∈ word, Quotes quote write c) (not_space : isSpace quote = false)
    (first : ∀ c ∈ rest.head?, isSpace c = false) (inside : bound ≤ col) (pos : 0 < col)
    (fuel : Nat) :
    quotedInside quote bound (fuel + 1)
        ⟨word.flatMap write ++ (List.replicate (j + 1) ' ' ++ rest), line, col, index, false⟩ =
      (quotedInside quote bound fuel ⟨rest, line, col + (word.flatMap write).length + (j + 1),
        index + (word.flatMap write).length + (j + 1), false⟩).map
          fun (later, s) => (word ++ List.replicate (j + 1) ' ' ++ later, s) := by
  have ne_quote : ¬(List.replicate (j + 1) ' ' ++ rest).head? = some quote := by
    intro h
    rw [← Option.some.inj h] at not_space
    cases not_space
  have enough : j + 1 ≤ (List.replicate (j + 1) ' ' ++ rest).length + 1 := by
    rw [List.length_append, List.length_replicate]
    omega
  rw [quotedInside_word quotes (by simp) (partEnds_spaces j _) inside pos, if_neg ne_quote,
    quotedGap_spaces first enough]
  rfl

/-- What is written for a text that starts with no space starts with none either. -/
theorem isSpace_head_of_quotes (not_space : isSpace quote = false)
    (quotes : ∀ c ∈ cs, c ≠ ' ' → Quotes quote write c) (first : cs.head? ≠ some ' ')
    (tail : List Char) : ∀ c ∈ (cs.flatMap write ++ quote :: tail).head?, isSpace c = false := by
  intro c at_head
  cases cs with
  | nil => exact Option.some.inj at_head ▸ not_space
  | cons d cs =>
    obtain ⟨e, more, write_eq, not_space⟩ :=
      (quotes d List.mem_cons_self fun h => first (congrArg some h)).starts
    rw [List.flatMap_cons, write_eq] at at_head
    exact Option.some.inj at_head ▸ not_space

/-- Between quotes a text is read word by word, with the spaces in between. -/
theorem quotedInside_eq (not_space : isSpace quote = false) (space : write ' ' = [' '])
    (quotes : ∀ c ∈ cs, c ≠ ' ' → Quotes quote write c) (inside : bound ≤ col) (pos : 0 < col)
    {fuel : Nat} (enough : cs.length < fuel) :
    ∃ col' index', quotedInside quote bound fuel
        ⟨cs.flatMap write ++ quote :: '\n' :: tail, line, col, index, false⟩ =
      some (cs, ⟨'\n' :: tail, line, col', index', false⟩) := by
  induction fuel generalizing cs col index with
  | zero => exact absurd enough (Nat.not_lt_zero _)
  | succ fuel ih =>
    obtain ⟨word, later, rfl, no_space, later_first⟩ := exists_until ' ' cs
    have word_quotes : ∀ c ∈ word, Quotes quote write c := fun c mem =>
      quotes c (List.mem_append_left _ mem) (fun h => no_space (h ▸ mem))
    obtain ⟨j, rest, rfl, rest_first⟩ := exists_run ' ' later
    cases j with
    | zero =>
      -- no space is left, and so the text ends with this word
      obtain rfl : rest = [] := Classical.byContradiction fun h => rest_first (later_first h)
      refine ⟨col + (word.flatMap write).length + 1, index + (word.flatMap write).length + 1, ?_⟩
      rw [List.replicate_zero, List.nil_append, List.append_nil,
        quotedInside_word word_quotes (List.cons_ne_nil quote _) (partEnds_quote not_space tail)
          inside pos]
      exact if_pos rfl
    | succ j =>
      have rest_quotes : ∀ c ∈ rest, c ≠ ' ' → Quotes quote write c := fun c mem =>
        quotes c (List.mem_append_right _ (List.mem_append_right _ mem))
      have shorter : rest.length < fuel := by
        simp only [List.length_append, List.length_replicate] at enough
        omega
      obtain ⟨col', index', rest_eq⟩ : ∃ col' index', quotedInside quote bound fuel
          ⟨rest.flatMap write ++ quote :: '\n' :: tail, line,
            col + (word.flatMap write).length + (j + 1),
            index + (word.flatMap write).length + (j + 1), false⟩ =
          some (rest, ⟨'\n' :: tail, line, col', index', false⟩) :=
        ih rest_quotes (by omega) (by omega) shorter
      refine ⟨col', index', ?_⟩
      rw [List.flatMap_append, List.flatMap_append, flatMap_spaces space, List.append_assoc,
        List.append_assoc, quotedInside_spaces word_quotes not_space
          (isSpace_head_of_quotes not_space rest_quotes rest_first _) inside pos, rest_eq,
        Option.map_some]
      simp only [List.append_assoc]

/-- A quoted text is read up to the end of its line. -/
theorem quotedScalar_eq (not_space : isSpace quote = false) (space : write ' ' = [' '])
    (quotes : ∀ c ∈ cs, c ≠ ' ' → Quotes quote write c) (inside : bound ≤ col) {lead : Bool} :
    ∃ col' index', quotedScalar false quote bound
        ⟨quote :: (cs.flatMap write ++ quote :: '\n' :: tail), line, col, index, lead⟩ =
      some (cs, ⟨'\n' :: tail, line, col', index', false⟩) := by
  have short : cs.length ≤ (cs.flatMap write).length := by
    refine length_le_flatMap fun c mem => ?_
    by_cases is_space : c = ' '
    · rw [is_space, space]
      exact List.cons_ne_nil ' ' []
    · exact (quotes c mem is_space).ne_nil
  obtain ⟨col', index', inside_eq⟩ : ∃ col' index', quotedInside quote bound
      ((quote :: (cs.flatMap write ++ quote :: '\n' :: tail)).length + 1)
      ⟨cs.flatMap write ++ quote :: '\n' :: tail, line, col + 1, index + 1, false⟩ =
        some (cs, ⟨'\n' :: tail, line, col', index', false⟩) :=
    quotedInside_eq not_space space quotes (by omega) (by omega) (by
      simp only [List.length_cons, List.length_append]
      omega)
  refine ⟨col', index', ?_⟩
  have opened : Cursor.chars 1 ⟨quote :: (cs.flatMap write ++ quote :: '\n' :: tail), line, col,
      index, lead⟩ = ⟨cs.flatMap write ++ quote :: '\n' :: tail, line, col + 1, index + 1, false⟩ :=
    rfl
  rw [quotedScalar, opened, inside_eq]
  rfl

end

/-! ### Texts that are written in quotes -/

theorem endLine_quoted {c : Char} (inside : isBreak c = false) (front : List Char) :
    endLine (front ++ [c]) = front ++ [c, '\n'] := by
  rw [endLine, List.getLast?_concat, Option.any_some, inside, if_neg Bool.false_ne_true,
    List.append_assoc]
  rfl

/-- A text in quotes is written character by character. In single quotes it may hold no character
but the line end that ends a line when it is written. -/
theorem Style.exists_quotes (depth : Nat)
    (h : Style.of cs = .double ∨
      Style.of cs = .single ∧ LineFeeds cs) :
    ∃ quote write, (quote = '"' ∨ quote = '\'') ∧
      scalarText depth cs = quote :: (cs.flatMap write ++ [quote]) ∧ write ' ' = [' '] ∧
      ∀ c ∈ cs, c ≠ ' ' → Quotes quote write c := by
  rcases h with double | ⟨single, lines⟩
  · refine ⟨'"', inDouble, .inl rfl, ?_, rfl, fun c _ => quotes_double⟩
    rw [scalarText, double]
    rfl
  · have chars := Style.of_eq_single single
    have inside : ∀ c ∈ cs, isBreak c = false := fun c mem =>
      Bool.eq_false_iff.2 fun is_break => (chars c mem).1 (lines c mem is_break)
    refine ⟨'\'', inSingle, .inr rfl, ?_, rfl, fun c mem ne_space => quotes_single ?_⟩
    · have not_closed : cs.getLast?.any isBreak = false := by
        cases last : cs.getLast? with
        | none => rfl
        | some c => exact inside c (List.mem_of_mem_getLast? last)
      rw [scalarText, single]
      simp only [indentLines_eq inside, not_closed, Bool.false_eq_true, if_false, List.append_nil,
        List.cons_append]
    · exact Bool.eq_false_iff.2 fun space =>
        ne_space ((isSpace_iff ⟨(chars c mem).1, (chars c mem).2.1⟩).1 space)

/-- A text in quotes is read up to the end of its line. -/
theorem Style.quoted_eq (depth : Nat)
    (h : Style.of cs = .double ∨
      Style.of cs = .single ∧ LineFeeds cs) :
    ∃ quote rest, (quote = '"' ∨ quote = '\'') ∧ endLine (scalarText depth cs) = quote :: rest ∧
      ∀ bound tail line col index lead, bound ≤ col →
        ∃ col' index', quotedScalar false quote bound
            ⟨quote :: (rest ++ tail), line, col, index, lead⟩ =
          some (cs, ⟨'\n' :: tail, line, col', index', false⟩) := by
  obtain ⟨quote, write, is_quote, text_eq, space, quotes⟩ := Style.exists_quotes depth h
  have not_space : isSpace quote = false ∧ isBreak quote = false := by
    rcases is_quote with rfl | rfl <;> decide
  refine ⟨quote, cs.flatMap write ++ [quote, '\n'], is_quote, ?_,
    fun bound tail line col index lead inside => ?_⟩
  · rw [text_eq, ← List.cons_append, endLine_quoted not_space.2]
    rfl
  · rw [List.append_assoc]
    exact quotedScalar_eq not_space.1 space quotes inside

end SampleBank.Yaml
