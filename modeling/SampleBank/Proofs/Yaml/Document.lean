import SampleBank.Proofs.Yaml.Block

/-!
# Documents that are read back

Before a reader looks for nodes it turns some characters into line ends and stops at others; no
scalar is written with one of these (`clean_scalarText`). A text without them that starts with a key
is a single document (`documents?_eq`).
-/

namespace SampleBank.Yaml

variable {cs key rest : List Char} {node : Node}

/-! ### Characters that are kept -/

/-- A text without characters that mean a line end or the end of a text to a reader but not to a
writer. -/
def Clean (cs : List Char) : Prop := ∀ c ∈ cs, c ≠ '\r' ∧ c ≠ '\x00'

instance (cs : List Char) : Decidable (Clean cs) :=
  decidable_of_iff (cs.all fun c => c ≠ '\r' ∧ c ≠ '\x00')
    (by simp only [List.all_eq_true, decide_eq_true_eq, Clean])

theorem clean_nil : Clean [] := fun _ mem => nomatch mem

theorem Clean.append (first : Clean cs) (second : Clean rest) : Clean (cs ++ rest) :=
  List.forall_mem_append.2 ⟨first, second⟩

theorem Clean.cons {c : Char} (first : c ≠ '\r' ∧ c ≠ '\x00') (second : Clean rest) :
    Clean (c :: rest) := List.forall_mem_cons.2 ⟨first, second⟩

theorem clean_replicate {c : Char} (h : c ≠ '\r' ∧ c ≠ '\x00') (n : Nat) :
    Clean (List.replicate n c) := fun _ mem => List.eq_of_mem_replicate mem ▸ h

/-- There is nothing to normalize in a clean text. -/
theorem normalLines_eq (h : Clean cs) : normalLines cs = cs := by
  induction cs with
  | nil => rfl
  | cons c cs ih =>
    rw [Clean, List.forall_mem_cons] at h
    unfold normalLines
    split
    · rename_i eq
      cases eq
    · rename_i eq
      exact absurd (List.cons.inj eq).1 h.1.2
    · rename_i eq
      exact absurd (List.cons.inj eq).1 h.1.1
    · rename_i eq
      exact absurd (List.cons.inj eq).1 h.1.1
    · rename_i eq
      cases eq
      rw [ih h.2]

/-- Characters that are written as they are do not end a line or the text. -/
theorem clean_of_isWritable {c : Char} (h : isWritable c = true) : c ≠ '\r' ∧ c ≠ '\x00' :=
  (ne_of_isWritable h).2

/-- Indenting adds spaces and line feeds only. -/
theorem clean_indentLines {depth : Nat} {write : Char → List Char} (start : Bool)
    (h : ∀ c ∈ cs, Clean (write c)) : Clean (indentLines depth write start cs) := by
  induction cs generalizing start with
  | nil => exact clean_nil
  | cons c cs ih =>
    rw [List.forall_mem_cons] at h
    rw [indentLines]
    split
    · rename_i is_break
      refine .cons ⟨?_, ?_⟩ (ih true h.2) <;> rintro rfl <;> exact absurd is_break (by decide)
    · refine .append (.append ?_ h.1) (ih false h.2)
      split
      · exact clean_replicate (by decide) depth
      · exact clean_nil

theorem clean_paddedHex (width n : Nat) : Clean (paddedHex width n) := by
  have digits := natural?_paddedHex width n
  rw [Numeral.natural?] at digits
  split at digits
  · cases digits
  · intro c mem
    have digit := Numeral.digit?_isSome_of_mem digits c mem
    refine ⟨?_, ?_⟩ <;> rintro rfl <;> exact absurd digit (by decide)

/-- An escape is written in characters that stand for themselves. -/
theorem clean_escaped (c : Char) : Clean (escaped c) := by
  have backslash : '\\' ≠ '\r' ∧ '\\' ≠ '\x00' := by decide
  rw [escaped]
  split
  · rename_i letter found
    have known : ∀ p ∈ escapeLetters, p.2 ≠ '\r' ∧ p.2 ≠ '\x00' := by decide
    obtain ⟨before, after, letters, -⟩ := List.lookup_eq_some_iff.1 found
    exact .cons backslash (.cons (known (c, letter) (by rw [letters]; simp)) clean_nil)
  · dsimp only
    split
    · exact .cons backslash (.cons (by decide) (clean_paddedHex _ _))
    split
    · exact .cons backslash (.cons (by decide) (clean_paddedHex _ _))
    · exact .cons backslash (.cons (by decide) (clean_paddedHex _ _))

/-- Between double quotes every character is written cleanly. -/
theorem clean_inDouble (c : Char) : Clean (inDouble c) := by
  rw [inDouble]
  split
  · exact clean_escaped c
  · rename_i plain
    simp only [Bool.or_eq_true, Bool.not_eq_true', not_or, Bool.not_eq_false] at plain
    exact .cons (clean_of_isWritable plain.1.1.1) clean_nil

/-- The header of a block is clean. -/
theorem clean_literalHeader (cs : List Char) : Clean (literalHeader cs) := by
  rw [literalHeader]
  refine .append ?_ ?_
  · split
    · exact .cons (by decide) clean_nil
    · exact clean_nil
  · split
    · exact .cons (by decide) clean_nil
    · split <;> exact .cons (by decide) clean_nil
    · split
      · exact .cons (by decide) clean_nil
      split
      · exact .cons (by decide) clean_nil
      · exact clean_nil

/-- However a text is written, a reader sees the characters that were written. -/
theorem clean_scalarText (depth : Nat) (cs : List Char) : Clean (scalarText depth cs) := by
  have quote : '\'' ≠ '\r' ∧ '\'' ≠ '\x00' := by decide
  rw [scalarText]
  cases style : Style.of cs with
  | plain => exact fun c mem => clean_of_isWritable ((Style.of_eq_plain style).2.1 c mem)
  | single =>
    have chars := Style.of_eq_single style
    refine .append (.append (.cons quote (clean_indentLines false fun c mem => ?_)) ?_)
      (.cons quote clean_nil)
    · rw [inSingle]
      split
      · exact .cons quote (.cons quote clean_nil)
      · exact .cons (chars c mem).2.2 clean_nil
    · split
      · exact clean_replicate (by decide) depth
      · exact clean_nil
  | double =>
    refine .append (.cons (by decide) fun d mem => ?_) (.cons (by decide) clean_nil)
    obtain ⟨c, -, mem⟩ := List.mem_flatMap.1 mem
    exact clean_inDouble c d mem
  | literal =>
    refine .append (.cons (by decide) (clean_literalHeader cs)) (.cons (by decide) ?_)
    refine clean_indentLines true fun c mem => .cons ?_ clean_nil
    exact clean_of_isWritable ((Style.of_eq_literal style).2 c mem)

namespace Read

/-- A document without directives starts at its first token. -/
theorem runs_directives {c : Cursor} (token : Token c.rest) (none : c.rest.head? ≠ some '%')
    (fuel : Nat) : Runs (directives (fuel + 1) false) c () c := by
  unfold directives
  refine (runs_skip (Cursor.leadsTo_self token 0)).bind ?_
  rw [if_neg fun h => none h.2]
  exact runs_pure () c

/-- At the end of a text there are no more documents. -/
theorem runs_documents_end (line index : Nat) (fuel : Nat) (bare : Bool) :
    Runs (documents (fuel + 1) bare) ⟨[], line, 0, index, true⟩ [] ⟨[], line, 0, index, true⟩ := by
  unfold documents
  exact (runs_skip (Cursor.leadsTo_self token_nil 0)).bind (runs_pure [] _)

/-- A key is not a mark of a document. -/
theorem KeyText.atMark (h : KeyText key) {c : Cursor} (text : c.rest = key ++ rest) :
    c.atMark '.' = false ∧ c.atMark '-' = false := by
  obtain ⟨rest', line, col, index, lead⟩ := c
  obtain rfl : rest' = key ++ rest := text
  have ended : (Cursor.mk (key ++ rest) line col index lead).atDocumentEnd = false :=
    h.atDocumentEnd rest
  rw [Cursor.atDocumentEnd, Cursor.atDocumentMark, Bool.or_eq_false_iff, Bool.or_eq_false_iff,
    Bool.or_eq_false_iff] at ended
  exact ended.1.2.symm

/-- A document without directives, at the start of a text. -/
theorem Ends.documents (h : KeyText key)
    (read : Ends (documentNode true) ⟨key ++ rest, 0, 0, 0, true⟩ node [] 0) (fuel : Nat) :
    Ends (Read.documents (fuel + 2) true) ⟨key ++ rest, 0, 0, 0, true⟩ [node] [] 0 := by
  let start : Cursor := ⟨key ++ rest, 0, 0, 0, true⟩
  have token : Token start.rest := h.token rest
  have marks : start.atMark '.' = false ∧ start.atMark '-' = false := h.atMark rfl
  obtain ⟨c, head, -, -, -, -, directive⟩ := h.head rest
  have more : start.atEnd = false := List.isEmpty_eq_false_iff.2 (h.append_ne_nil rest)
  have no_directive : start.rest.head? ≠ some '%' := fun mark =>
    directive (Option.some.inj (head.symm.trans mark))
  unfold Read.documents
  refine (runs_skip (Cursor.leadsTo_self token 0)).bind_ends ?_
  rw [more, marks.1, if_neg Bool.false_ne_true, if_neg Bool.false_ne_true]
  refine Runs.bind_ends (fun bound => ⟨bound, rfl⟩) ?_
  rw [decide_eq_false no_directive]
  refine (runs_guard rfl _).bind_ends ((runs_directives token no_directive _).bind_ends ?_)
  refine (runs_skip (Cursor.leadsTo_self token 0)).bind_ends ?_
  rw [marks.2]
  refine (runs_guard rfl _).bind_ends (read.bind fun line index => ?_)
  refine (runs_skip (Cursor.leadsTo_self token_nil 0)).bind_ends ((runs_guard rfl _).bind_ends ?_)
  exact ((runs_documents_end line index fuel false).bind (runs_pure [node] _)).ends

/-- A text with a single document. -/
theorem documents?_eq (h : KeyText key) (clean : Clean (key ++ rest))
    (read : Ends (documentNode true) ⟨key ++ rest, 0, 0, 0, true⟩ node [] 0) :
    documents? (key ++ rest) = some [node] := by
  obtain ⟨fuel, length_eq⟩ : ∃ n, (key ++ rest).length = n + 1 :=
    Nat.exists_eq_add_one.2 (List.length_pos_iff.2 (h.append_ne_nil rest))
  obtain ⟨line, index, run⟩ := Ends.documents h read fuel
  obtain ⟨bound, run⟩ := run 0
  rw [documents?, normalLines_eq clean, length_eq]
  exact congrArg (Option.map Prod.fst) run

end Read

end SampleBank.Yaml
