import SampleBank.Proofs.Text.Number
import SampleBank.Proofs.Yaml.Reader
import SampleBank.Proofs.Yaml.Style

/-!
# Plain scalars that are read back

A plain scalar is read word by word, with the spaces in between, until the next line turns out to be
indented less. What has to be true of a text so that all of it is read, and nothing else, is
`PlainText`: texts of the plain style are so, and the digits of numbers. A plain scalar takes its
type from its text; one that a writer leaves plain stays a text (`Style.ofPlain_eq`), and digits are
an integer again (`ofPlain_toDigits`).
-/

namespace SampleBank.Yaml

/-- What a text is like that can stand in a line as it is. -/
structure PlainText (cs : List Char) : Prop where
  starts : startsPlain false cs = true
  one_line : ∀ c ∈ cs, c ≠ '\n' ∧ c ≠ '\t'
  first : cs.head? ≠ some ' '
  last : cs.getLast? ≠ some ' '
  clear : holdsIndicator true cs = false

variable {cs next tail : List Char} {line col index indent k : Nat} {lead gap : Bool}

theorem PlainText.token (h : PlainText cs) (rest : List Char) : Token (cs ++ rest) := by
  cases cs with
  | nil => cases h.starts
  | cons c cs =>
    refine token_cons ⟨Bool.eq_false_iff.2 fun space => ?_, ?_⟩
    · exact h.first (congrArg some ((isSpace_iff (h.one_line c List.mem_cons_self)).1 space))
    · rintro rfl
      cases h.starts

/-! ### Words and gaps -/

theorem startsGap_of_startsBlank (h : startsBlank cs = true) : startsGap cs = true := by
  cases cs with
  | nil => rfl
  | cons c cs =>
    change isSpace c = true at h
    change isGap c = true
    rw [isSpace, Bool.or_eq_true, decide_eq_true_iff] at h
    rw [isGap, isBreak, Bool.or_eq_true]
    refine h.imp id fun h => ?_
    rw [h]
    rfl

theorem holdsIndicator_cons {c : Char} (h : holdsIndicator gap (c :: cs) = false) :
    (c = ':' → startsGap cs = false) ∧ (c = '#' → gap = false) ∧
      holdsIndicator (isGap c) cs = false := by
  rw [holdsIndicator, Bool.or_eq_false_iff, Bool.or_eq_false_iff, Bool.and_eq_false_iff,
    Bool.and_eq_false_iff, decide_eq_false_iff_not, decide_eq_false_iff_not] at h
  exact ⟨fun colon => h.1.1.resolve_left (not_not_intro colon),
    fun mark => h.1.2.resolve_left (not_not_intro mark), h.2⟩

theorem holdsIndicator_mono (h : holdsIndicator gap cs = false) :
    holdsIndicator false cs = false := by
  cases cs with
  | nil => rfl
  | cons c cs =>
    obtain ⟨colon, -, clear⟩ := holdsIndicator_cons h
    rw [holdsIndicator, clear, Bool.and_false, Bool.or_false, Bool.or_false,
      Bool.and_eq_false_iff, decide_eq_false_iff_not]
    by_cases is_colon : c = ':'
    · exact .inr (colon is_colon)
    · exact .inl is_colon

theorem holdsIndicator_of_append (front : List Char)
    (h : holdsIndicator gap (front ++ cs) = false) : holdsIndicator false cs = false := by
  induction front generalizing gap with
  | nil => exact holdsIndicator_mono h
  | cons c front ih => exact ih (holdsIndicator_cons h).2.2

/-- Behind spaces a number sign would be an indicator. -/
theorem holdsIndicator_of_spaces {j : Nat}
    (h : holdsIndicator gap (List.replicate (j + 1) ' ' ++ cs) = false) :
    holdsIndicator true cs = false := by
  induction j generalizing gap with
  | zero => exact (holdsIndicator_cons h).2.2
  | succ j ih => exact ih (holdsIndicator_cons h).2.2

/-- A word of a plain scalar ends before the next space, since no colon in it stands before one. -/
theorem plainWord_eq {word later : List Char} (word_chars : ∀ c ∈ word, isSpace c = false)
    (clear : holdsIndicator gap (word ++ later) = false)
    (blank : startsBlank (later ++ tail) = true) :
    plainWord false (word ++ (later ++ tail)) = word.length := by
  induction word generalizing gap with
  | nil =>
    rw [List.nil_append]
    generalize later ++ tail = rest at blank
    cases rest with
    | nil => rfl
    | cons c rest =>
      change isSpace c = true at blank
      rw [plainWord, blank, Bool.true_or, if_pos rfl]
      rfl
  | cons c word ih =>
    rw [List.forall_mem_cons] at word_chars
    obtain ⟨colon, -, clear⟩ := holdsIndicator_cons clear
    have goes_on : plainEnds false (c :: (word ++ (later ++ tail))) = false := by
      rw [plainEnds, Bool.false_and, Bool.false_and, Bool.or_false, Bool.or_false,
        Bool.and_eq_false_iff, decide_eq_false_iff_not]
      by_cases is_colon : c = ':'
      · refine .inr (Bool.eq_false_iff.2 fun h => ?_)
        rw [← List.append_assoc] at h
        exact Bool.false_ne_true
          ((colon is_colon).symm.trans (startsGap_of_startsBlank (startsBlank_of_append h)))
      · exact .inl is_colon
    rw [List.cons_append, plainWord, word_chars.1, goes_on, Bool.false_or,
      if_neg Bool.false_ne_true, ih word_chars.2 clear, List.length_cons]

theorem plainGap_end {fuel breaks : Nat} {blanks : List Char} {s : Cursor}
    (word : ∀ c ∈ s.rest.head?, isSpace c = false) :
    plainGap indent fuel breaks blanks s = some (fold false breaks blanks.reverse, s) := by
  cases fuel with
  | zero => rfl
  | succ fuel =>
    unfold plainGap
    split
    · rename_i eq
      exact absurd (word '\n' (by rw [eq]; rfl)) (by decide)
    · rename_i c _ _ eq
      rw [(isBlank_of_isSpace_eq_false (word c (by rw [eq]; rfl))).1]
      rfl
    · rfl

/-- Within a line the gap before a word is kept. -/
theorem plainGap_spaces {j fuel : Nat} {blanks rest : List Char}
    (word : ∀ c ∈ rest.head?, isSpace c = false) (enough : j ≤ fuel) :
    plainGap indent fuel 0 blanks ⟨List.replicate j ' ' ++ rest, line, col, index, lead⟩ =
      some (blanks.reverse ++ List.replicate j ' ', ⟨rest, line, col + j, index + j, lead⟩) := by
  induction j generalizing fuel blanks col index with
  | zero =>
    rw [List.replicate_zero, List.append_nil]
    exact plainGap_end word
  | succ j ih =>
    obtain ⟨fuel, rfl⟩ : ∃ n, fuel = n + 1 := ⟨fuel - 1, by omega⟩
    rw [List.replicate_succ, List.cons_append, plainGap]
    refine (ih (Nat.le_of_succ_le_succ enough)).trans ?_
    rw [List.reverse_cons, List.append_assoc, List.singleton_append, Nat.add_assoc,
      Nat.add_comm 1 j, Nat.add_assoc, Nat.add_comm 1 j]

/-- The blanks in front of the next line's token are passed over. -/
theorem plainGap_indent {fuel breaks : Nat} {blanks : List Char} (token : Token next)
    (enough : k ≤ fuel) (below : 0 < breaks) :
    ∃ gap, plainGap indent fuel breaks blanks
        ⟨List.replicate k ' ' ++ next, line, col, index, lead⟩ =
      some (gap, ⟨next, line, col + k, index + k, lead⟩) := by
  induction k generalizing fuel col index with
  | zero => exact ⟨_, plainGap_end fun c h => (token c h).1⟩
  | succ k ih =>
    obtain ⟨fuel, rfl⟩ : ∃ n, fuel = n + 1 := ⟨fuel - 1, by omega⟩
    obtain ⟨gap, eq⟩ : ∃ gap, plainGap indent fuel breaks blanks
        ⟨List.replicate k ' ' ++ next, line, col + 1, index + 1, lead⟩ =
          some (gap, ⟨next, line, col + 1 + k, index + 1 + k, lead⟩) :=
      ih (Nat.le_of_succ_le_succ enough)
    refine ⟨gap, ?_⟩
    rw [List.replicate_succ, List.cons_append, plainGap]
    simp only [Nat.ne_of_gt below, if_false]
    refine (eq.trans ?_)
    rw [Nat.add_assoc, Nat.add_comm 1 k, Nat.add_assoc, Nat.add_comm 1 k]

/-- Behind its last word a plain scalar ends with the line, if the next one is indented less. -/
theorem plainWords_end {fuel : Nat} (token : Token next) (less : k < indent) :
    plainWords false indent (fuel + 1)
        ⟨'\n' :: (List.replicate k ' ' ++ next), line, col, index, lead⟩ =
      some ([], ⟨next, line + 1, k, index + 1 + k, true⟩) := by
  obtain ⟨gap, passed⟩ : ∃ gap, plainGap indent ((List.replicate k ' ' ++ next).length + 1) 1 []
      ⟨List.replicate k ' ' ++ next, line + 1, 0, index + 1, true⟩ =
        some (gap, ⟨next, line + 1, 0 + k, index + 1 + k, true⟩) :=
    plainGap_indent token (by rw [List.length_append, List.length_replicate]; omega) Nat.one_pos
  have gap_eq : plainGap indent (('\n' :: (List.replicate k ' ' ++ next)).length + 1) 0 []
      ⟨'\n' :: (List.replicate k ' ' ++ next), line, col, index, lead⟩ =
        some (gap, ⟨next, line + 1, k, index + 1 + k, true⟩) := by
    rw [List.length_cons, plainGap]
    exact passed.trans (by rw [Nat.zero_add])
  have starts : startsBlank ('\n' :: (List.replicate k ' ' ++ next)) = true := rfl
  rw [plainWords]
  simp only [Cursor.atEnd, List.isEmpty_cons, starts, Bool.not_true, Bool.or_self,
    Bool.false_eq_true, if_false, gap_eq, less, decide_true, Bool.not_false, Bool.true_and,
    Bool.true_or, if_true]

/-- The next word of a plain scalar and the spaces before it. -/
theorem plainWords_word {fuel j : Nat} {c : Char} {word later : List Char}
    (inside : indent ≤ col) (not_space : ∀ d ∈ c :: word, isSpace d = false)
    (clear : holdsIndicator true (c :: word ++ later) = false)
    (blank : startsBlank (later ++ tail) = true) :
    plainWords false indent (fuel + 1)
        ⟨List.replicate (j + 1) ' ' ++ (c :: word ++ (later ++ tail)), line, col, index, lead⟩ =
      (plainWords false indent fuel
        ⟨later ++ tail, line, col + (j + 1) + (word.length + 1),
          index + (j + 1) + (word.length + 1), false⟩).map
        fun (more, t) => (List.replicate (j + 1) ' ' ++ (c :: word) ++ more, t) := by
  have gap_eq : plainGap indent
      ((List.replicate (j + 1) ' ' ++ (c :: word ++ (later ++ tail))).length + 1) 0 []
      ⟨List.replicate (j + 1) ' ' ++ (c :: word ++ (later ++ tail)), line, col, index, lead⟩ =
        some (List.replicate (j + 1) ' ',
          ⟨c :: word ++ (later ++ tail), line, col + (j + 1), index + (j + 1), lead⟩) :=
    plainGap_spaces
      (fun d h => not_space d (Option.some.inj h ▸ List.mem_cons_self))
      (by rw [List.length_append, List.length_replicate]; omega)
  have word_eq : plainWord false (c :: word ++ (later ++ tail)) = word.length + 1 :=
    plainWord_eq not_space clear blank
  have not_comment : c ≠ '#' := fun is_mark => by
    cases (holdsIndicator_cons clear).2.1 is_mark
  have starts : startsBlank (List.replicate (j + 1) ' ' ++ (c :: word ++ (later ++ tail))) = true :=
    rfl
  have goes_on : (decide (col + (j + 1) < indent) ||
      (Cursor.mk (c :: word ++ (later ++ tail)) line (col + (j + 1)) (index + (j + 1))
        lead).atDocumentMark ||
      decide ((c :: word ++ (later ++ tail)).head? = some '#')) = false := by
    rw [Cursor.atDocumentMark_eq_false (Nat.add_pos_right col j.succ_pos),
      decide_eq_false (by omega)]
    exact decide_eq_false fun h => not_comment (Option.some.inj h)
  have taken : (c :: word ++ (later ++ tail)).take (word.length + 1) = c :: word :=
    List.take_left' rfl
  have moved : Cursor.chars (word.length + 1) ⟨c :: word ++ (later ++ tail), line, col + (j + 1),
      index + (j + 1), lead⟩ = ⟨later ++ tail, line, col + (j + 1) + (word.length + 1),
        index + (j + 1) + (word.length + 1), false⟩ := Cursor.chars_append rfl
  have not_at_end : (Cursor.mk (List.replicate (j + 1) ' ' ++ (c :: word ++ (later ++ tail))) line
      col index lead).atEnd = false := rfl
  rw [plainWords]
  simp only [starts, gap_eq, word_eq, goes_on, taken, moved, not_at_end, Bool.not_false,
    Bool.true_and, Bool.false_and, Bool.not_true, Bool.or_false, Bool.false_eq_true, if_false]
  cases plainWords false indent fuel _ <;> rfl

/-- The words behind the first one are read up to the end of the line. -/
theorem plainWords_eq {fuel : Nat} (token : Token next) (less : k < indent) (inside : indent ≤ col)
    (one_line : ∀ c ∈ cs, c ≠ '\n' ∧ c ≠ '\t') (last : cs.getLast? ≠ some ' ')
    (clear : holdsIndicator false cs = false) (start : startsBlank cs = true)
    (enough : cs.length < fuel) :
    ∃ index', plainWords false indent fuel
        ⟨cs ++ '\n' :: (List.replicate k ' ' ++ next), line, col, index, lead⟩ =
      some (cs, ⟨next, line + 1, k, index', true⟩) := by
  induction fuel generalizing cs col index lead with
  | zero => exact absurd enough (Nat.not_lt_zero _)
  | succ fuel ih =>
    obtain ⟨j, rest, rfl, first⟩ := exists_run ' ' cs
    obtain ⟨word, later, rfl, no_space, later_first⟩ := exists_until ' ' rest
    cases word with
    | nil =>
      -- no word is left, and so no space either
      obtain rfl : later = [] := Classical.byContradiction fun h => first (later_first h)
      cases j with
      | zero => exact ⟨_, plainWords_end token less⟩
      | succ j =>
        rw [List.nil_append, List.append_nil, List.replicate_succ', List.getLast?_concat] at last
        exact absurd rfl last
    | cons c word =>
      have word_chars : ∀ d ∈ c :: word, isSpace d = false :=
        isSpace_of_not_mem
          (fun d mem => one_line d (List.mem_append_right _ (List.mem_append_left _ mem))) no_space
      cases j with
      | zero => exact absurd start (Bool.eq_false_iff.1 (word_chars c List.mem_cons_self))
      | succ j =>
        have clear_word := holdsIndicator_of_spaces clear
        have later_starts := startsBlank_of_head later_first
        have shorter : later.length < fuel := by
          simp only [List.length_append, List.length_replicate, List.length_cons] at enough
          omega
        obtain ⟨index', rest_eq⟩ : ∃ index', plainWords false indent fuel
            ⟨later ++ '\n' :: (List.replicate k ' ' ++ next), line,
              col + (j + 1) + (word.length + 1), index + (j + 1) + (word.length + 1), false⟩ =
              some (later, ⟨next, line + 1, k, index', true⟩) :=
          ih (by omega)
            (fun d mem => one_line d (List.mem_append_right _ (List.mem_append_right _ mem)))
            (getLast?_of_append (getLast?_of_append last)) (holdsIndicator_of_append _ clear_word)
            later_starts shorter
        refine ⟨index', ?_⟩
        rw [List.append_assoc, List.append_assoc,
          plainWords_word inside word_chars clear_word (startsBlank_line later_starts), rest_eq,
          Option.map_some]
        simp only [List.append_assoc]

/-! ### Plain scalars -/

/-- A text in a line of its own is read up to the next line. -/
theorem PlainText.plainScalar_eq (plain : PlainText cs) (token : Token next) (less : k < indent)
    (inside : indent ≤ col) :
    ∃ index', plainScalar false indent
        ⟨cs ++ '\n' :: (List.replicate k ' ' ++ next), line, col, index, lead⟩ =
      some (cs, ⟨next, line + 1, k, index', true⟩) := by
  obtain ⟨word, later, rfl, no_space, later_first⟩ := exists_until ' ' cs
  have word_chars : ∀ d ∈ word, isSpace d = false :=
    isSpace_of_not_mem (fun d mem => plain.one_line d (List.mem_append_left _ mem)) no_space
  have later_starts := startsBlank_of_head later_first
  obtain ⟨index', rest_eq⟩ : ∃ index', plainWords false indent
      ((word ++ (later ++ '\n' :: (List.replicate k ' ' ++ next))).length + 1)
      ⟨later ++ '\n' :: (List.replicate k ' ' ++ next), line, col + word.length,
        index + word.length, false⟩ = some (later, ⟨next, line + 1, k, index', true⟩) :=
    plainWords_eq token less (by omega)
      (fun d mem => plain.one_line d (List.mem_append_right _ mem)) (getLast?_of_append plain.last)
      (holdsIndicator_of_append _ plain.clear) later_starts (by
        simp only [List.length_append]
        omega)
  refine ⟨index', ?_⟩
  rw [List.append_assoc, plainScalar]
  simp only [Bool.false_and, Bool.false_eq_true, if_false,
    plainWord_eq word_chars plain.clear (startsBlank_line later_starts),
    Cursor.chars_append rfl, List.take_left', rest_eq]

/-- A key is read up to its colon. -/
theorem plainScalar_key {key rest : List Char} (chars : ∀ c ∈ key, isSpace c = false ∧ c ≠ ':')
    (blank : startsBlank rest = true) :
    plainScalar false indent ⟨key ++ ':' :: rest, line, col, index, lead⟩ =
      some (key, ⟨':' :: rest, line, col + key.length, index + key.length, false⟩) := by
  have word_eq : plainWord false (key ++ ':' :: rest) = key.length := by
    induction key with
    | nil =>
      rw [List.nil_append, plainWord, plainEnds, blank]
      rfl
    | cons c key ih =>
      rw [List.forall_mem_cons] at chars
      rw [List.cons_append, plainWord, chars.1.1, plainEnds, decide_eq_false chars.1.2]
      simp only [Bool.false_and, Bool.or_self, Bool.false_eq_true, if_false, ih chars.2,
        List.length_cons]
  have no_more (fuel : Nat) (s : Cursor) (colon : s.rest = ':' :: rest) :
      plainWords false indent (fuel + 1) s = some ([], s) := by
    rw [plainWords, colon]
    exact if_pos (Bool.or_true _)
  rw [plainScalar]
  simp only [Bool.false_and, Bool.false_eq_true, if_false, word_eq, Cursor.chars_append rfl,
    List.take_left', no_more, List.append_nil]

/-! ### Texts and numbers that are written plainly -/

theorem startsBlank_of_startsGap (h : startsGap cs = false) : startsBlank cs = false :=
  Bool.eq_false_iff.2 fun blank => by
    rw [startsGap_of_startsBlank blank] at h
    cases h

theorem startsPlain_of_not_indicator (not_empty : cs ≠ []) (h : startsIndicator cs = false) :
    startsPlain false cs = true := by
  cases cs with
  | nil => exact absurd rfl not_empty
  | cons c rest =>
    rw [startsIndicator, Bool.or_eq_false_iff, Bool.or_eq_false_iff, Bool.or_eq_false_iff,
      Bool.and_eq_false_iff] at h
    obtain ⟨⟨⟨indicator, alone⟩, -⟩, -⟩ := h
    have not_alone (mark : c = '?' ∨ c = ':' ∨ c = '-') : startsBlank rest = false := by
      refine startsBlank_of_startsGap (alone.resolve_left fun h => ?_)
      rcases mark with rfl | rfl | rfl <;> exact absurd h (by decide)
    have no_mark : isFlow c = false ∧ "#&*!%@'\"".toList.contains c = false ∧ c.toNat ≠ 0x60 ∧
        c ≠ '|' ∧ c ≠ '>' := by
      simp [isIndicator] at indicator
      simp [isFlow, indicator]
    rw [startsPlain]
    split
    · rename_i mark
      rw [not_alone (mark.elim (.inr ∘ .inr) .inl)]
      rfl
    split
    · rename_i mark
      rw [not_alone (.inr (.inl mark))]
      rfl
    rw [if_neg (not_or.2 no_mark.2.2.2), no_mark.1, no_mark.2.1, decide_eq_false no_mark.2.2.1]
    rfl

theorem Style.plainText (h : Style.of cs = .plain) : PlainText cs := by
  obtain ⟨word, writable, -, allowed⟩ := Style.of_eq_plain h
  rw [plainAllowed, Bool.not_eq_true', Bool.or_eq_false_iff, Bool.or_eq_false_iff,
    Bool.or_eq_false_iff, Bool.or_eq_false_iff] at allowed
  obtain ⟨⟨⟨⟨breaks, first⟩, last⟩, indicator⟩, clear⟩ := allowed
  have not_empty : cs ≠ [] := by
    rintro rfl
    exact absurd word (by decide)
  refine ⟨startsPlain_of_not_indicator not_empty indicator, fun c mem => ⟨?_, ?_⟩, ?_, ?_, clear⟩
  · rintro rfl
    exact absurd (List.any_eq_true.2 ⟨_, mem, rfl⟩) (Bool.eq_false_iff.1 breaks)
  · exact (ne_of_isWritable (writable c mem)).1
  · intro h
    rw [h] at first
    cases first
  · intro h
    rw [h] at last
    cases last

/-- What does not start like a number is none. -/
theorem isReal_eq_false {c : Char} {rest : List Char} (h : startsNumber c = false) :
    Node.isReal (c :: rest) = false ∧ Node.plainInteger? (c :: rest) = none := by
  rw [startsNumber, Bool.or_eq_false_iff, Bool.or_eq_false_iff, Bool.or_eq_false_iff,
    decide_eq_false_iff_not, decide_eq_false_iff_not, decide_eq_false_iff_not] at h
  obtain ⟨⟨⟨digit, minus⟩, point⟩, plus⟩ := h
  have special : Node.specialReals.contains (String.ofList (c :: rest)) = false := by
    refine Bool.eq_false_iff.2 fun mem => ?_
    have first : ∀ w ∈ Node.specialReals, w.toList.head? = some '.' ∨ w.toList.head? = some '+' ∨
        w.toList.head? = some '-' := by decide
    have := first _ (List.contains_iff_mem.1 mem)
    rw [String.toList_ofList] at this
    exact this.elim (fun h => point (Option.some.inj h))
      (·.elim (fun h => plus (Option.some.inj h)) fun h => minus (Option.some.inj h))
  refine ⟨?_, ?_⟩
  · rw [Node.isReal, special, Numeral.decimal?_eq_none digit minus plus point]
    rfl
  · unfold Node.plainInteger?
    split
    · rename_i same
      rw [(List.cons.inj same).1] at digit
      exact absurd digit (by decide)
    · rename_i same
      rw [(List.cons.inj same).1] at digit
      exact absurd digit (by decide)
    · rename_i same
      exact absurd (List.cons.inj same).1 plus
    · exact Numeral.int64?_eq_none digit minus plus

/-- A text that is written plainly is read as a text. -/
theorem Style.ofPlain_eq (h : Style.of cs = .plain) : Node.ofPlain cs = .text cs := by
  obtain ⟨word, -, number, -⟩ := Style.of_eq_plain h
  have ne_word {w : String}
      (reserved : reservedWords.contains (String.ofList (w.toList.map Char.toLower)) = true) :
      String.ofList cs ≠ w := by
    rintro rfl
    rw [String.toList_ofList, word] at reserved
    cases reserved
  cases cs with
  | nil => exact absurd word (by decide)
  | cons c rest =>
    obtain ⟨real, integer⟩ : Node.isReal (c :: rest) = false ∧
        Node.plainInteger? (c :: rest) = none :=
      isReal_eq_false (by simpa using number)
    have null : ¬(String.ofList (c :: rest) = "" ∨ String.ofList (c :: rest) = "~" ∨
        String.ofList (c :: rest) = "null") := by
      rintro (h | h | h) <;> exact ne_word (by decide) h
    have yes : ¬(String.ofList (c :: rest) = "true" ∨ String.ofList (c :: rest) = "True" ∨
        String.ofList (c :: rest) = "TRUE") := by
      rintro (h | h | h) <;> exact ne_word (by decide) h
    have no : ¬(String.ofList (c :: rest) = "false" ∨ String.ofList (c :: rest) = "False" ∨
        String.ofList (c :: rest) = "FALSE") := by
      rintro (h | h | h) <;> exact ne_word (by decide) h
    rw [Node.ofPlain, integer]
    simp only [if_neg null, if_neg yes, if_neg no, real, Bool.false_eq_true, if_false]

theorem holdsIndicator_of_digits (digits : ∀ c ∈ cs, Numeral.isDigit c = true) :
    holdsIndicator gap cs = false := by
  induction cs generalizing gap with
  | nil => rfl
  | cons c cs ih =>
    rw [List.forall_mem_cons] at digits
    rw [holdsIndicator, ih digits.2,
      decide_eq_false (Numeral.ne_of_isDigit digits.1 (by decide) : c ≠ ':'),
      decide_eq_false (Numeral.ne_of_isDigit digits.1 (by decide) : c ≠ '#')]
    rfl

theorem plainText_toDigits (n : Nat) : PlainText (Nat.toDigits 10 n) := by
  have digits : ∀ c ∈ Nat.toDigits 10 n, Numeral.isDigit c = true := fun c mem =>
    Numeral.isDigit_of_mem_toDigits mem
  have other {d : Char} (h : Numeral.isDigit d = false) : d ∉ Nat.toDigits 10 n := fun mem => by
    rw [digits d mem] at h
    cases h
  refine ⟨?_, fun c mem => ⟨?_, ?_⟩, ?_, ?_, holdsIndicator_of_digits digits⟩
  · obtain ⟨c, rest, eq⟩ := List.exists_cons_of_ne_nil (Nat.toDigits_ne_nil (n := n) (b := 10))
    have digit : Numeral.isDigit c = true := digits c (eq ▸ List.mem_cons_self)
    have ne {d : Char} (h : Numeral.isDigit d = false) : c ≠ d := Numeral.ne_of_isDigit digit h
    have not_grave : c.toNat ≠ 0x60 := fun h =>
      ne (d := Char.ofNat 0x60) (by decide) (by rw [← h, Char.ofNat_toNat])
    have marks : ("-?:|>,[]\x7b\x7d#&*!%@'\"".toList.all
        fun d => Numeral.isDigit d = false) = true := by decide
    have no_mark : ∀ d ∈ "-?:|>,[]\x7b\x7d#&*!%@'\"".toList, c ≠ d := fun d mem =>
      ne (of_decide_eq_true (List.all_eq_true.1 marks d mem))
    simp only [String.reduceToList, List.mem_cons, List.not_mem_nil, or_false, forall_eq_or_imp,
      forall_eq, ne_eq] at no_mark
    simp [eq, startsPlain, isFlow, not_grave, no_mark]
  · exact Numeral.ne_of_isDigit (digits c mem) (by decide)
  · exact Numeral.ne_of_isDigit (digits c mem) (by decide)
  · exact fun h => other (by decide) (List.mem_of_mem_head? h)
  · exact fun h => other (by decide) (List.mem_of_mem_getLast? h)

theorem ofPlain_toDigits {n : Nat} (h : (n : Int) ≤ Numeral.maxInt) :
    Node.ofPlain (Nat.toDigits 10 n) = .integer n := by
  have integer : Node.plainInteger? (Nat.toDigits 10 n) = some (n : Int) := by
    have digits {d : Char} (h : d ∈ Nat.toDigits 10 n) : Numeral.isDigit d = true :=
      Numeral.isDigit_of_mem_toDigits h
    unfold Node.plainInteger?
    split
    · rename_i same
      exact absurd (digits (d := 'x') (by rw [same]; simp)) (by decide)
    · rename_i same
      exact absurd (digits (d := 'o') (by rw [same]; simp)) (by decide)
    · rename_i same
      exact absurd (digits (d := '+') (by rw [same]; simp)) (by decide)
    · exact Numeral.int64?_toDigits h
  rw [Node.ofPlain, integer]

end SampleBank.Yaml
