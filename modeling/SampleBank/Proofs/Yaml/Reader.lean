import SampleBank.Yaml.Document

/-!
# Runs of a reader

What a reader does with a text is said cursor by cursor: `Read.Runs m c a d` if the step `m`, begun
at the cursor `c`, returns `a` and stands at `d`, where no anchors and handles are declared. Runs
compose as the steps do (`Runs.bind`), and each small step has its own.

Between the nodes of a block stand blanks and line ends. A cursor leads to the next token
(`Cursor.LeadsTo`) if passing over them ends there, whatever indentation is asked for; so it does
not matter which of the reader's steps passes over them.
-/

namespace SampleBank.Yaml

/-! ### Cursors -/

/-- Whether a text is at its end or starts with a character of a token. -/
def Token (cs : List Char) : Prop :=
  ∀ c ∈ cs.head?, isSpace c = false ∧ c ≠ '#'

section

variable {cs tail : List Char}

theorem token_nil : Token [] := fun _ first => nomatch first

/-- A text whose first character is neither blank nor a comment sign starts with a token. -/
theorem token_cons {c : Char} (h : isSpace c = false ∧ c ≠ '#') : Token (c :: cs) :=
  fun _ first => Option.some.inj first ▸ h

/-- Where there are no line ends and tabs, the only blank character is the space. -/
theorem isSpace_iff {c : Char} (h : c ≠ '\n' ∧ c ≠ '\t') : isSpace c = true ↔ c = ' ' := by
  simp only [isSpace, isBlank, h.1, h.2, decide_false, Bool.or_false, decide_eq_true_iff]

/-- A character that is no space in the wide sense is neither a blank nor a line end. -/
theorem isBlank_of_isSpace_eq_false {c : Char} (h : isSpace c = false) :
    isBlank c = false ∧ c ≠ '\n' := by
  rwa [isSpace, Bool.or_eq_false_iff, decide_eq_false_iff_not] at h

/-- A text that is empty or goes on with a space may stand behind an indicator. -/
theorem startsBlank_of_head (h : cs ≠ [] → cs.head? = some ' ') : startsBlank cs = true := by
  cases cs with
  | nil => rfl
  | cons c cs => exact Option.some.inj (h nofun) ▸ rfl

/-- A line that may stand behind an indicator may do so in front of other lines too. -/
theorem startsBlank_line (h : startsBlank cs = true) : startsBlank (cs ++ '\n' :: tail) = true := by
  cases cs with
  | nil => rfl
  | cons c cs => exact h

/-- What does not end in a space has no part at its end that does. -/
theorem getLast?_of_append {front : List Char} (h : (front ++ cs).getLast? ≠ some ' ') :
    cs.getLast? ≠ some ' ' := by
  intro last
  rw [List.getLast?_append, last] at h
  exact h rfl

/-- The characters of one line without spaces are all parts of words. -/
theorem isSpace_of_not_mem (one_line : ∀ c ∈ cs, c ≠ '\n' ∧ c ≠ '\t') (no_space : ' ' ∉ cs) :
    ∀ c ∈ cs, isSpace c = false := fun c mem =>
  Bool.eq_false_iff.2 fun h => no_space ((isSpace_iff (one_line c mem)).1 h ▸ mem)

/-- Whether a text may stand behind an indicator is decided by its front. -/
theorem startsBlank_of_append (h : startsBlank (cs ++ tail) = true) : startsBlank cs = true := by
  cases cs with
  | nil => rfl
  | cons c cs => exact h

end

/-- A text starts with a run of any character, which may be empty. -/
theorem exists_run (c : Char) (cs : List Char) :
    ∃ n rest, cs = List.replicate n c ++ rest ∧ rest.head? ≠ some c := by
  induction cs with
  | nil => exact ⟨0, [], rfl, nofun⟩
  | cons d cs ih =>
    by_cases same : d = c
    · obtain ⟨n, rest, rfl, first⟩ := ih
      exact ⟨n + 1, rest, by rw [same]; rfl, first⟩
    · exact ⟨0, d :: cs, rfl, fun h => same (Option.some.inj h)⟩

/-- What stands before the first character of a kind, and the rest. -/
theorem exists_until (c : Char) (cs : List Char) :
    ∃ front rest, cs = front ++ rest ∧ c ∉ front ∧ (rest ≠ [] → rest.head? = some c) := by
  induction cs with
  | nil => exact ⟨[], [], rfl, List.not_mem_nil, fun h => absurd rfl h⟩
  | cons d cs ih =>
    by_cases same : d = c
    · exact ⟨[], d :: cs, rfl, List.not_mem_nil, fun _ => by rw [same]; rfl⟩
    · obtain ⟨front, rest, rfl, absent, first⟩ := ih
      exact ⟨d :: front, rest, rfl,
        fun h => (List.mem_cons.1 h).elim (Ne.symm same) absent, first⟩

/-- Before a token a single space is all that is passed over. -/
theorem takeWhile_isBlank_space {rest : List Char} (token : Token rest) :
    (' ' :: rest).takeWhile isBlank = [' '] := by
  rw [List.takeWhile_cons_of_pos rfl]
  cases rest with
  | nil => rfl
  | cons c rest =>
    have not_blank := (isBlank_of_isSpace_eq_false (token c rfl).1).1
    rw [List.takeWhile_cons_of_neg (Bool.eq_false_iff.1 not_blank)]

namespace Cursor

variable {s t : Cursor} {rest : List Char} {line col index indent : Nat} {lead : Bool}

/-- A token that a reader passes over. -/
theorem chars_append {n : Nat} {front : List Char} (h : front.length = n) :
    chars n ⟨front ++ rest, line, col, index, lead⟩ = ⟨rest, line, col + n, index + n, false⟩ := by
  subst h
  simp only [chars, blanks, List.drop_left]

/-- The columns in front of a line. -/
theorem blanks_spaces (j : Nat) :
    blanks j ⟨List.replicate j ' ' ++ rest, line, col, index, lead⟩ =
      ⟨rest, line, col + j, index + j, lead⟩ := by
  rw [blanks, List.drop_left' List.length_replicate]

/-- Passing over what stands before the next token ends here, for every indentation. -/
def LeadsTo (s t : Cursor) : Prop := ∀ indent, s.skip indent = some t

/-- A reader that is at a token stays there, however much fuel it has. -/
theorem skipWithin_token (token : Token s.rest) (fuel : Nat) :
    skipWithin indent fuel s = some s := by
  cases fuel with
  | zero => rfl
  | succ fuel =>
    have first (c : Char) (h : s.rest.head? = some c) : isSpace c = false ∧ c ≠ '#' := token c h
    unfold skipWithin
    split
    · rename_i eq
      exact absurd (first ' ' (by rw [eq]; rfl)).1 (by decide)
    · rename_i eq
      exact absurd (first '\n' (by rw [eq]; rfl)).1 (by decide)
    · rename_i eq
      exact absurd rfl (first '#' (by rw [eq]; rfl)).2
    · rename_i eq
      exact absurd (first '\t' (by rw [eq]; rfl)).1 (by decide)
    · rfl

/-- Spaces in front of a token are passed over one by one, and only the column changes. -/
theorem skipWithin_spaces {k fuel : Nat} (token : Token rest) (enough : k ≤ fuel) :
    skipWithin indent fuel ⟨List.replicate k ' ' ++ rest, line, col, index, lead⟩ =
      some ⟨rest, line, col + k, index + k, lead⟩ := by
  induction k generalizing fuel col index with
  | zero => exact skipWithin_token token fuel
  | succ k ih =>
    obtain ⟨fuel, rfl⟩ : ∃ n, fuel = n + 1 := ⟨fuel - 1, by omega⟩
    rw [List.replicate_succ, List.cons_append, skipWithin]
    refine (ih (Nat.le_of_succ_le_succ enough)).trans ?_
    rw [Nat.add_assoc, Nat.add_comm 1 k, Nat.add_assoc, Nat.add_comm 1 k]

/-- A cursor at a token leads to itself. -/
theorem leadsTo_self (token : Token s.rest) : s.LeadsTo s := fun _ => skipWithin_token token _

/-- A cursor that has one space before the token leads past the space. -/
theorem leadsTo_space (token : Token rest) :
    LeadsTo ⟨' ' :: rest, line, col, index, lead⟩ ⟨rest, line, col + 1, index + 1, lead⟩ :=
  fun _ => skipWithin_spaces (k := 1) token (by rw [List.length_cons]; omega)

/-- The next token stands `k` columns in on the next line. -/
theorem leadsTo_newline {k : Nat} (token : Token rest) :
    LeadsTo ⟨'\n' :: (List.replicate k ' ' ++ rest), line, col, index, lead⟩
      ⟨rest, line + 1, k, index + 1 + k, true⟩ := by
  intro indent
  rw [skip, List.length_cons, skipWithin]
  refine (skipWithin_spaces token ?_).trans (by rw [Nat.zero_add])
  rw [List.length_append, List.length_replicate]
  omega

/-- The rest of a line that has a token behind one space starts at the token. -/
theorem restOfLine_space (token : Token rest) :
    restOfLine ⟨' ' :: rest, line, col, index, lead⟩ =
      some ⟨rest, line, col + 1, index + 1, lead⟩ := by
  have not_comment : rest.head? ≠ some '#' := fun mark => (token '#' mark).2 rfl
  rw [restOfLine, takeWhile_isBlank_space token]
  exact if_neg not_comment

/-! ### Marks -/

theorem atIndicator_cons (c d : Char) :
    atIndicator d ⟨c :: rest, line, col, index, lead⟩ = (decide (c = d) && startsBlank rest) := rfl

/-- An indicator is recognized in front of anything that starts blank. -/
theorem atIndicator_self {c : Char} (blank : startsBlank rest = true) :
    atIndicator c ⟨c :: rest, line, col, index, lead⟩ = true := by
  rw [atIndicator_cons, blank, decide_eq_true rfl, Bool.and_self]

/-- Marks stand in the first column only. -/
theorem atMark_eq_false (inside : 0 < s.col) (c : Char) : s.atMark c = false := by
  unfold atMark
  split
  · rw [decide_eq_false (Nat.ne_of_gt inside)]
    simp only [Bool.false_and]
  · rfl

/-- Inside a line no document starts or ends. -/
theorem atDocumentMark_eq_false (inside : 0 < s.col) : s.atDocumentMark = false := by
  rw [atDocumentMark, atMark_eq_false inside, atMark_eq_false inside, Bool.or_self]

/-- A document ends only at the start of a line, or with the text. -/
theorem atDocumentEnd_eq_false (inside : 0 < s.col) (more : s.rest ≠ []) :
    s.atDocumentEnd = false := by
  rw [atDocumentEnd, atDocumentMark_eq_false inside, decide_eq_false (Nat.ne_of_gt inside),
    Bool.false_and, Bool.or_false, Bool.or_false, atEnd, List.isEmpty_eq_false_iff]
  exact more

/-- Whatever the column, only these characters can end a document. -/
theorem atDocumentEnd_of_head {c : Char} (head : s.rest.head? = some c) (start : c ≠ '-')
    (stop : c ≠ '.') (directive : c ≠ '%') : s.atDocumentEnd = false := by
  obtain ⟨rest, line, col, index, lead⟩ := s
  cases rest with
  | nil => cases head
  | cons d rest =>
    obtain rfl : d = c := Option.some.inj head
    have mark {e : Char} (ne : d ≠ e) : atMark e ⟨d :: rest, line, col, index, lead⟩ = false := by
      unfold atMark
      split
      · rename_i eq
        rw [← (List.cons.inj eq).1, decide_eq_false ne, Bool.and_false, Bool.false_and,
          Bool.false_and, Bool.false_and]
      · rfl
    have no_directive : decide ((d :: rest).head? = some '%') = false :=
      decide_eq_false fun h => directive (Option.some.inj h)
    rw [atDocumentEnd, atDocumentMark, mark start, mark stop, no_directive, Bool.and_false]
    rfl

/-- A hyphen before a space ends no document. -/
theorem atDocumentEnd_item :
    atDocumentEnd ⟨'-' :: ' ' :: rest, line, col, index, lead⟩ = false := by
  cases rest <;> simp [atDocumentEnd, atDocumentMark, atMark, atEnd]

end Cursor

namespace Read

variable {α β : Type} {m : Read α} {f : α → Read β} {a : α} {b : β} {c d e : Cursor}

/-- From one cursor a step returns a value and stands at another cursor, in a document without
anchors and handles. -/
def Runs (m : Read α) (c : Cursor) (a : α) (d : Cursor) : Prop :=
  ∀ bound, ∃ bound', m ⟨c, bound, [], []⟩ = some (a, ⟨d, bound', [], []⟩)

/-- What comes behind a step goes on in the state that the step has left. -/
theorem bind_eq {r r' : Reader} (h : m r = some (a, r')) : (m >>= f) r = f a r' := by
  change (m r >>= fun p => f p.1 p.2) = _
  rw [h]
  rfl

/-- Runs compose as their steps do: the second begins where the first has ended. -/
theorem Runs.bind (first : Runs m c a d) (second : Runs (f a) d b e) : Runs (m >>= f) c b e := by
  intro bound
  obtain ⟨bound', eq⟩ := first bound
  obtain ⟨bound'', eq'⟩ := second bound'
  exact ⟨bound'', (bind_eq eq).trans eq'⟩

theorem runs_pure (a : α) (c : Cursor) : Runs (pure a) c a c := fun bound => ⟨bound, rfl⟩

theorem runs_cursor (c : Cursor) : Runs cursor c c c := fun bound => ⟨bound, rfl⟩

theorem runs_moveTo (c d : Cursor) : Runs (moveTo d) c () d := fun bound => ⟨bound, rfl⟩

/-- A value that is there is returned, and the reader does not move. -/
theorem runs_liftM {x : Option α} (h : x = some a) (c : Cursor) :
    Runs (liftM x : Read α) c a c := by
  subst h
  exact fun bound => ⟨bound, rfl⟩

/-- A condition that is met costs nothing. -/
theorem guard_eq_pure {p : Prop} [Decidable p] (h : p) : (guard p : Read Unit) = pure () :=
  if_pos h

theorem runs_guard {p : Prop} [Decidable p] (h : p) (c : Cursor) :
    Runs (guard p : Read Unit) c () c := by
  rw [guard_eq_pure h]
  exact runs_pure () c

theorem runs_advance (n : Nat) (c : Cursor) : Runs (advance n) c () (c.chars n) :=
  (runs_cursor c).bind (runs_moveTo c _)

/-- A scan runs to where the scanner of the text stops. -/
theorem runs_scan {g : Cursor → Option (α × Cursor)} (h : g c = some (a, d)) :
    Runs (scan g) c a d :=
  (runs_cursor c).bind ((runs_liftM h c).bind ((runs_moveTo c d).bind (runs_pure a d)))

/-- Skipping runs to the next token, and looks at it. -/
theorem runs_skip {indent : Nat} (h : c.skip indent = some d) : Runs (skip indent) c d d :=
  (runs_cursor c).bind ((runs_liftM h c).bind ((runs_moveTo c d).bind (runs_pure d d)))

theorem runs_restOfLine (h : c.restOfLine = some d) : Runs restOfLine c () d :=
  (runs_cursor c).bind ((runs_liftM h c).bind (runs_moveTo c d))

end Read

end SampleBank.Yaml
