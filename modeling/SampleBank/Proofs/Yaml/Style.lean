import SampleBank.Yaml.Writing

/-!
# What the style of a text says about it

The style in which a text is written is the first of a list of cases; here is what each case says
about the characters of the text. A writer knows two more line ends than a reader, the separators of
lines and of paragraphs, and indents what stands behind them: a text can be read back if it has none
of them (`LineFeeds`), or if they are escaped (`Kept`).
-/

namespace SampleBank.Yaml

variable {cs : List Char}

/-- A character that has to be escaped is not written as it is. -/
theorem ne_of_isWritable {c : Char} (h : isWritable c = true) :
    c ≠ '\t' ∧ c ≠ '\r' ∧ c ≠ '\x00' := by
  refine ⟨?_, ?_, ?_⟩ <;> rintro rfl <;> exact absurd h (by decide)

/-- A reserved word, in whatever case it is spelt, holds no character like these. -/
theorem not_mem_of_reserved {c : Char} (lower : c.toLower = c)
    (absent : ∀ w ∈ reservedWords, c ∉ w.toList)
    (h : reservedWords.contains (String.ofList (cs.map Char.toLower)) = true) : c ∉ cs := by
  intro mem
  refine absent _ (List.contains_iff_mem.1 h) ?_
  rw [String.toList_ofList, ← lower]
  exact List.mem_map_of_mem mem

theorem Style.of_eq_plain (h : Style.of cs = .plain) :
    reservedWords.contains (String.ofList (cs.map Char.toLower)) = false ∧
      (∀ c ∈ cs, isWritable c = true) ∧ cs.head?.any startsNumber = false ∧
      plainAllowed cs = true := by
  dsimp only [Style.of] at h
  split at h
  · cases h
  rename_i word
  split at h
  · split at h <;> cases h
  split at h
  · cases h
  rename_i special
  split at h
  · cases h
  rename_i number
  split at h
  · rename_i allowed
    rw [Bool.or_eq_true, Bool.or_eq_true, Bool.not_eq_true'] at special
    refine ⟨Bool.eq_false_iff.2 word, ?_, Bool.eq_false_iff.2 number, allowed⟩
    have := (not_or.1 (not_or.1 special).1).1
    rw [Bool.not_eq_false, List.all_eq_true] at this
    exact this
  · cases h

/-- A text in single quotes holds no character of these kinds: neither do the words that would be
taken for something else. -/
theorem Style.of_eq_single (h : Style.of cs = .single) :
    ∀ c ∈ cs, c ≠ '\n' ∧ c ≠ '\t' ∧ c ≠ '\r' ∧ c ≠ '\x00' := by
  dsimp only [Style.of] at h
  split at h
  · rename_i word
    intro c mem
    refine ⟨?_, ?_, ?_, ?_⟩ <;> rintro rfl <;>
      exact not_mem_of_reserved (by decide) (by decide) word mem
  rename_i word
  split at h
  · split at h <;> cases h
  rename_i one_line
  split at h
  · cases h
  rename_i special
  rw [Bool.or_eq_true, Bool.or_eq_true, Bool.not_eq_true'] at special
  have writable := (not_or.1 (not_or.1 special).1).1
  rw [Bool.not_eq_false, List.all_eq_true] at writable
  intro c mem
  refine ⟨?_, ne_of_isWritable (writable c mem)⟩
  rintro rfl
  exact one_line (List.contains_iff_mem.2 mem)

theorem Style.of_eq_literal (h : Style.of cs = .literal) :
    '\n' ∈ cs ∧ ∀ c ∈ cs, isWritable c = true := by
  dsimp only [Style.of] at h
  split at h
  · cases h
  split at h
  · rename_i lines
    split at h
    · cases h
    rename_i special
    rw [Bool.or_eq_true, Bool.or_eq_true, Bool.not_eq_true', not_or, not_or, Bool.not_eq_false,
      List.all_eq_true] at special
    exact ⟨List.contains_iff_mem.1 lines, special.1.1⟩
  split at h
  · cases h
  split at h
  · cases h
  split at h <;> cases h

/-! ### Lines of a text -/

/-- A text that has the same lines for a reader as for a writer: neither of the separators that end
a line only when it is written is in it. -/
def LineFeeds (cs : List Char) : Prop := ∀ c ∈ cs, isBreak c = true → c = '\n'

instance (cs : List Char) : Decidable (LineFeeds cs) :=
  decidable_of_iff (cs.all fun c => isBreak c = true → c = '\n')
    (by simp only [List.all_eq_true, decide_eq_true_eq, LineFeeds])

theorem LineFeeds.mono {part : List Char} (h : LineFeeds cs) (sub : ∀ c ∈ part, c ∈ cs) :
    LineFeeds part := fun c mem => h c (sub c mem)

section

variable {front rest : List Char} {write : Char → List Char} {indent : Nat}

/-- What ends no line is written as it is in the middle of one. -/
theorem indentLines_append (inside : ∀ c ∈ front, isBreak c = false) :
    indentLines indent write false (front ++ rest) =
      front.flatMap write ++ indentLines indent write false rest := by
  induction front with
  | nil => rfl
  | cons c front ih =>
    rw [List.forall_mem_cons] at inside
    rw [List.cons_append, indentLines, inside.1, ih inside.2, List.flatMap_cons,
      List.append_assoc (write c)]
    rfl

theorem indentLines_eq (inside : ∀ c ∈ cs, isBreak c = false) :
    indentLines indent write false cs = cs.flatMap write := by
  have appended : indentLines indent write false (cs ++ []) = cs.flatMap write ++ [] :=
    indentLines_append inside
  rwa [List.append_nil, List.append_nil] at appended

/-- Empty lines are not indented. -/
theorem indentLines_breaks (n : Nat) :
    indentLines indent write true (List.replicate n '\n' ++ rest) =
      List.replicate n '\n' ++ indentLines indent write true rest := by
  induction n with
  | zero => rfl
  | succ n ih => exact congrArg ('\n' :: ·) ih

/-- A line is indented if there is something in it. -/
theorem indentLines_start (not_empty : rest ≠ []) (first : ∀ c ∈ rest.head?, isBreak c = false) :
    indentLines indent write true rest =
      List.replicate indent ' ' ++ indentLines indent write false rest := by
  cases rest with
  | nil => exact absurd rfl not_empty
  | cons c rest =>
    rw [indentLines, indentLines, first c rfl, List.append_assoc]
    rfl

end

/-! ### Texts that are kept -/

/-- A text that is the same when it was written and read: one in double quotes, or one with the same
lines on both sides. -/
def Kept (cs : List Char) : Prop := Style.of cs = .double ∨ LineFeeds cs

instance (cs : List Char) : Decidable (Kept cs) :=
  inferInstanceAs (Decidable (Style.of cs = .double ∨ LineFeeds cs))

end SampleBank.Yaml
