import SampleBank.Proofs.Yaml.Reader
import SampleBank.Proofs.Yaml.Style

/-!
# Literal blocks that are read back

A text of several lines is written line by line, with as many columns before each line as the reader
gives to the block. Such a text is a number of line ends, a body that neither starts nor ends with a
line end, and again a number of line ends; the first number and the first character of the body
decide whether the header of the block says how it is indented, the last number what becomes of the
line ends at the end (`Chomping.of`). The body is read line by line (`blockLines_eq`).
-/

namespace SampleBank.Yaml

variable {cs body next rest tail : List Char} {line col index indent depth k m n j : Nat}
  {chomping : Chomping}

/-! ### Headers -/

/-- What the header of a block says about the line ends at its end. -/
def Chomping.mark : Chomping → List Char
  | .strip => ['-']
  | .clip => []
  | .keep => ['+']

/-- What a block whose last line with content is followed by `n` empty ones has behind that line. -/
def Chomping.ending (n : Nat) : Chomping → List Char
  | .strip => []
  | .clip => ['\n']
  | .keep => '\n' :: List.replicate n '\n'

/-- How a text is chomped that ends with `n` line ends. -/
def Chomping.of : Nat → Chomping
  | 0 => .strip
  | 1 => .clip
  | _ + 2 => .keep

/-- Chomped as it is, a text has all its line ends again. -/
theorem Chomping.ending_of (n : Nat) : (Chomping.of n).ending (n - 1) = List.replicate n '\n' := by
  match n with
  | 0 => rfl
  | 1 => rfl
  | _ + 2 => rfl

/-- What a header says about the indentation: two columns more than the nodes around, or nothing. -/
def hintText (hinted : Bool) : List Char := if hinted then ['2'] else []

/-- A header is read as it was written. -/
theorem blockHeader?_eq (hinted : Bool) (chomping : Chomping) :
    ∃ col' index', blockHeader?
        ⟨hintText hinted ++ chomping.mark ++ '\n' :: rest, line, col, index, false⟩ =
      some (chomping, if hinted then 2 else 0, ⟨'\n' :: rest, line, col', index', false⟩) := by
  cases hinted <;> cases chomping <;> exact ⟨_, _, rfl⟩

/-- Whether the indentation of a text cannot be seen. -/
def hinted (cs : List Char) : Bool := cs.head?.any fun c => c = ' ' || isBreak c

/-- The header of a text with a body depends on its first character and its last line ends. -/
theorem literalHeader_append {c : Char} (inside : isBreak c = false) (front : List Char) :
    literalHeader (front ++ c :: List.replicate n '\n') =
      hintText (hinted (front ++ c :: List.replicate n '\n')) ++ (Chomping.of n).mark := by
  have reversed : (front ++ c :: List.replicate n '\n').reverse =
      List.replicate n '\n' ++ c :: front.reverse := by simp
  rw [literalHeader, reversed, hinted, hintText]
  match n with
  | 0 => cases front.reverse <;> simp [inside, Chomping.of, Chomping.mark]
  | 1 =>
    have line_end : isBreak '\n' = true := by decide
    simp [List.replicate_one, inside, Chomping.of, Chomping.mark, line_end]
  | n + 2 => rfl

/-- A text of line ends alone keeps all of them. -/
theorem literalHeader_breaks (m : Nat) :
    literalHeader (List.replicate (m + 1) '\n') = hintText true ++ Chomping.keep.mark := by
  rw [literalHeader, List.reverse_replicate]
  cases m <;> rfl

/-! ### Indentation -/

theorem takeWhile_spaces (j : Nat) (rest : List Char) :
    (List.replicate j ' ' ++ rest).takeWhile (· = ' ') =
      List.replicate j ' ' ++ rest.takeWhile (· = ' ') := by
  refine List.takeWhile_append_of_pos fun c mem => ?_
  exact decide_eq_true (List.eq_of_mem_replicate mem)

/-- Where no space stands first, no spaces are passed over. -/
theorem takeWhile_ne_space (h : rest.head? ≠ some ' ') : rest.takeWhile (· = ' ') = [] := by
  cases rest with
  | nil => rfl
  | cons c rest => exact List.takeWhile_cons_of_neg (by simpa using h)

/-- Passing over empty lines and the spaces before a line with content. -/
theorem blockIndent_eq {fuel breaks : Nat} (less : j ≤ depth) (not_break : rest.head? ≠ some '\n')
    (stops : j = depth ∨ rest.head? ≠ some ' ') (enough : m < fuel) :
    blockIndent depth fuel breaks
        ⟨List.replicate m '\n' ++ (List.replicate j ' ' ++ rest), line, 0, index, true⟩ =
      (breaks + m, ⟨rest, line + m, j, index + m + j, true⟩) := by
  obtain ⟨fuel, rfl⟩ : ∃ n, fuel = n + 1 := ⟨fuel - 1, by omega⟩
  induction m generalizing fuel breaks line index with
  | zero =>
    have width :
        min ((List.replicate j ' ' ++ rest).takeWhile (· = ' ')).length (depth - 0) = j := by
      rw [takeWhile_spaces, List.length_append, List.length_replicate]
      rcases stops with rfl | not_space
      · omega
      · rw [takeWhile_ne_space not_space, List.length_nil]
        omega
    rw [List.replicate_zero, List.nil_append, blockIndent]
    simp only [width, Cursor.blanks_spaces, not_break, if_false, Nat.add_zero, Nat.zero_add]
  | succ m ih =>
    obtain ⟨fuel, rfl⟩ : ∃ n, fuel = n + 1 := ⟨fuel - 1, by omega⟩
    have opened : blockIndent depth (fuel + 1 + 1) breaks
        ⟨List.replicate (m + 1) '\n' ++ (List.replicate j ' ' ++ rest), line, 0, index, true⟩ =
          blockIndent depth (fuel + 1) (breaks + 1)
            ⟨List.replicate m '\n' ++ (List.replicate j ' ' ++ rest), line + 1, 0, index + 1,
              true⟩ :=
      rfl
    rw [opened, ih fuel (Nat.lt_of_succ_lt_succ enough), Nat.add_assoc, Nat.add_assoc,
      Nat.add_assoc index, Nat.add_comm 1 m]

/-! ### Lines -/

/-- A text that is not empty and neither starts nor ends with a line end. -/
structure Body (cs : List Char) : Prop where
  not_empty : cs ≠ []
  first : cs.head? ≠ some '\n'
  last : cs.getLast? ≠ some '\n'

/-- The lines of a text as a block of `depth` columns. -/
def blockText (depth : Nat) (start : Bool) (cs : List Char) : List Char :=
  indentLines depth (fun c => [c]) start cs

/-- Within a line nothing is indented. -/
theorem blockText_append {front : List Char} (inside : ∀ c ∈ front, isBreak c = false) :
    blockText depth false (front ++ rest) = front ++ blockText depth false rest := by
  rw [blockText, indentLines_append inside, List.flatMap_singleton']
  rfl

/-- A body is its first line, or its first line and another body some lines further down. -/
theorem Body.cases (h : Body cs) :
    ∃ front, '\n' ∉ front ∧
      (cs = front ∨ ∃ m rest, cs = front ++ (List.replicate (m + 1) '\n' ++ rest) ∧ Body rest) := by
  obtain ⟨front, later, rfl, one_line, later_first⟩ := exists_until '\n' cs
  obtain ⟨m, rest, rfl, rest_first⟩ := exists_run '\n' later
  refine ⟨front, one_line, ?_⟩
  cases m with
  | zero =>
    obtain rfl : rest = [] := Classical.byContradiction fun h => rest_first (later_first h)
    exact .inl (List.append_nil front)
  | succ m =>
    refine .inr ⟨m, rest, rfl, ?_, rest_first, ?_⟩
    · rintro rfl
      refine h.last ?_
      rw [List.append_nil, List.replicate_succ', ← List.append_assoc, List.getLast?_concat]
    · intro last
      refine h.last ?_
      rw [List.getLast?_append, List.getLast?_append, last]
      rfl

/-- A line of a block, and what comes of the lines without content behind it. -/
theorem blockLines_line {before front : List Char} {fuel : Nat} {lead : Bool}
    (one_line : '\n' ∉ front) (less : j ≤ depth) (not_break : rest.head? ≠ some '\n')
    (stops : j = depth ∨ rest.head? ≠ some ' ') (more : rest ≠ []) (pos : 0 < depth) :
    blockLines true chomping depth (fuel + 1) (fun _ => before)
        ⟨front ++ '\n' :: (List.replicate m '\n' ++ (List.replicate j ' ' ++ rest)),
          line, col, index, lead⟩ =
      let t : Cursor := ⟨rest, line + 1 + m, j, index + front.length + 1 + m + j, true⟩
      if j = depth then
        let (more, t) := blockLines true chomping depth fuel
          (fun _ => List.replicate (m + 1) '\n') t
        (before ++ front ++ more, t)
      else (before ++ front ++ chomping.ending m, t) := by
  have taken : (front ++ '\n' :: (List.replicate m '\n' ++
      (List.replicate j ' ' ++ rest))).takeWhile (· ≠ '\n') = front := by
    rw [List.takeWhile_append_of_pos]
    · exact List.append_nil front
    · intro c mem
      exact decide_eq_true fun (is_break : c = '\n') => one_line (is_break ▸ mem)
  have passed (fuel : Nat) (enough : m < fuel) : blockIndent depth fuel 0
      ⟨List.replicate m '\n' ++ (List.replicate j ' ' ++ rest), line + 1, 0,
        index + front.length + 1, true⟩ =
      (0 + m, ⟨rest, line + 1 + m, j, index + front.length + 1 + m + j, true⟩) :=
    blockIndent_eq less not_break stops enough
  have not_at_end : rest.isEmpty = false := List.isEmpty_eq_false_iff.2 more
  rw [blockLines]
  simp only [taken, Cursor.chars_append rfl, Cursor.newline, List.drop_one, List.tail_cons,
    Cursor.atEnd, List.isEmpty_cons, Bool.false_eq_true, if_false]
  rw [passed _ (by simp only [List.length_cons, List.length_append, List.length_replicate]; omega)]
  simp only [not_at_end, Nat.ne_of_gt pos, false_and, not_false_eq_true, and_true, Nat.zero_add,
    Bool.false_eq_true, false_and, if_false]
  split
  · rfl
  · cases chomping <;> rfl

/-- A token starts neither with a space nor with a line end. -/
theorem Token.not_space (token : Token next) : next.head? ≠ some ' ' ∧ next.head? ≠ some '\n' :=
  ⟨fun h => absurd (token ' ' h).1 (by decide), fun h => absurd (token '\n' h).1 (by decide)⟩

/-- A body does not start with a line break of any kind. -/
theorem Body.isBreak_head (h : Body body) (lines : LineFeeds body) :
    ∀ c ∈ body.head?, isBreak c = false := fun c first =>
  Bool.eq_false_iff.2 fun is_break =>
    h.first (lines c (List.mem_of_mem_head? first) is_break ▸ first)

/-- A block starts with the columns of its first line. -/
theorem Body.blockText_start (h : Body body) (lines : LineFeeds body) :
    blockText depth true body = List.replicate depth ' ' ++ blockText depth false body :=
  indentLines_start h.not_empty (h.isBreak_head lines)

/-- Behind its columns a block starts as its text does. -/
theorem Body.blockText_head (h : Body body) (lines : LineFeeds body)
    (tail : List Char) : (blockText depth false body ++ tail).head? = body.head? := by
  have inside := h.isBreak_head lines
  cases body with
  | nil => exact absurd rfl h.not_empty
  | cons c body =>
    rw [blockText, indentLines, inside c rfl]
    rfl

/-- The lines of a body are read one after the other, up to the token behind the block. -/
theorem blockLines_eq {before : List Char} {lead : Bool} (h : Body body)
    (lines : LineFeeds body) (token : Token next) (more : next ≠ [])
    (less : k < depth) {fuel : Nat} (enough : body.length < fuel) :
    ∃ line' index', blockLines true chomping depth fuel (fun _ => before)
        ⟨blockText depth false body ++
          '\n' :: (List.replicate n '\n' ++ (List.replicate k ' ' ++ next)),
          line, depth, index, lead⟩ =
      (before ++ body ++ chomping.ending n, ⟨next, line', k, index', true⟩) := by
  induction fuel generalizing body before line index lead with
  | zero => exact absurd enough (Nat.not_lt_zero _)
  | succ fuel ih =>
    have within {front : List Char} (mem : ∀ c ∈ front, c ∈ body) (one_line : '\n' ∉ front) :
        ∀ c ∈ front, isBreak c = false := fun c at_c =>
      Bool.eq_false_iff.2 fun is_break => one_line (lines c (mem c at_c) is_break ▸ at_c)
    obtain ⟨front, one_line, rfl | ⟨m, rest, rfl, rest_body⟩⟩ := h.cases
    · -- behind the last line the text is indented less
      refine ⟨line + 1 + n, index + body.length + 1 + n + k, ?_⟩
      rw [blockText, indentLines_eq (within (fun _ => id) one_line), List.flatMap_singleton',
        blockLines_line one_line (Nat.le_of_lt less) token.not_space.2 (.inr token.not_space.1) more
          (Nat.zero_lt_of_lt less)]
      exact if_neg (Nat.ne_of_lt less)
    · have front_mem : ∀ c ∈ front, c ∈ front ++ (List.replicate (m + 1) '\n' ++ rest) :=
        fun c => List.mem_append_left _
      have rest_lines : LineFeeds rest := fun c at_c =>
        lines c (List.mem_append_right _ (List.mem_append_right _ at_c))
      have shorter : rest.length < fuel := by
        simp only [List.length_append, List.length_replicate] at enough
        omega
      obtain ⟨line', index', rest_eq⟩ : ∃ line' index',
          blockLines true chomping depth fuel (fun _ => List.replicate (m + 1) '\n')
            ⟨blockText depth false rest ++
              '\n' :: (List.replicate n '\n' ++ (List.replicate k ' ' ++ next)),
              line + 1 + m, depth, index + front.length + 1 + m + depth, true⟩ =
          (List.replicate (m + 1) '\n' ++ rest ++ chomping.ending n,
            ⟨next, line', k, index', true⟩) := ih rest_body rest_lines shorter
      refine ⟨line', index', ?_⟩
      have text_eq : blockText depth false (front ++ (List.replicate (m + 1) '\n' ++ rest)) =
          front ++ '\n' :: (List.replicate m '\n' ++
            (List.replicate depth ' ' ++ blockText depth false rest)) := by
        rw [blockText_append (within front_mem one_line), ← rest_body.blockText_start rest_lines]
        exact congrArg (front ++ '\n' :: ·) (indentLines_breaks m)
      have rest_first : (blockText depth false rest ++
          '\n' :: (List.replicate n '\n' ++ (List.replicate k ' ' ++ next))).head? ≠ some '\n' := by
        rw [rest_body.blockText_head rest_lines]
        exact rest_body.first
      rw [text_eq]
      simp only [List.append_assoc, List.cons_append]
      rw [blockLines_line one_line (Nat.le_refl depth) rest_first (.inl rfl)
        (List.append_ne_nil_of_right_ne_nil _ (List.cons_ne_nil _ _)) (Nat.zero_lt_of_lt less)]
      simp only [if_true, rest_eq, List.append_assoc]

/-! ### Blocks -/

/-- Behind the header of a block the columns of its first line are found. -/
theorem blockStart_eq {fuel : Nat} (enough : 0 < fuel) (not_break : rest.head? ≠ some '\n')
    (not_space : rest.head? ≠ some ' ') :
    blockStart fuel 0 0 ⟨List.replicate j ' ' ++ rest, line, 0, index, true⟩ =
      (0, j, ⟨rest, line, j, index + j, true⟩) := by
  obtain ⟨fuel, rfl⟩ : ∃ n, fuel = n + 1 := ⟨fuel - 1, by omega⟩
  have width : ((List.replicate j ' ' ++ rest).takeWhile (· = ' ')).length = j := by
    rw [takeWhile_spaces, takeWhile_ne_space not_space, List.append_nil, List.length_replicate]
  rw [blockStart]
  simp only [width, Cursor.blanks_spaces, not_break, if_false, Nat.zero_max, Nat.zero_add]

/-- A block is opened by its header and the lines without content behind it. Where nothing is said
of its indentation there is no such line, and the columns can be seen. -/
theorem blockScalar_open {hint lead : Bool} (pos : 0 < indent) (less : j = indent + 1 ∨ j < indent)
    (shown : 0 < m ∨ 0 < j) (seen : hint = false → m = 0 ∧ j = indent + 1 ∧ rest.head? ≠ some ' ')
    (not_break : rest.head? ≠ some '\n') (stops : j = indent + 1 ∨ rest.head? ≠ some ' ')
    (more : rest ≠ []) :
    ∃ index', blockScalar indent
        ⟨'|' :: (hintText hint ++ chomping.mark ++
          '\n' :: (List.replicate m '\n' ++ (List.replicate j ' ' ++ rest))),
          line, col, index, lead⟩ =
      some (blockContent true chomping (indent + 1) m ⟨rest, line + 1 + m, j, index', true⟩) := by
  obtain ⟨col', index', header⟩ : ∃ col' index', blockHeader? ⟨hintText hint ++ chomping.mark ++
      '\n' :: (List.replicate m '\n' ++ (List.replicate j ' ' ++ rest)), line, col + 1, index + 1,
        false⟩ = some (chomping, if hint then 2 else 0,
          ⟨'\n' :: (List.replicate m '\n' ++ (List.replicate j ' ' ++ rest)), line, col', index',
            false⟩) := blockHeader?_eq hint chomping
  refine ⟨index' + 1 + m + j, ?_⟩
  have opened : Cursor.chars 1 ⟨'|' :: (hintText hint ++ chomping.mark ++
      '\n' :: (List.replicate m '\n' ++ (List.replicate j ' ' ++ rest))), line, col, index, lead⟩ =
      ⟨hintText hint ++ chomping.mark ++ '\n' :: (List.replicate m '\n' ++
        (List.replicate j ' ' ++ rest)), line, col + 1, index + 1, false⟩ := rfl
  have line_end (s : List Char) : Cursor.restOfLine ⟨'\n' :: s, line, col', index', false⟩ =
      some ⟨'\n' :: s, line, col', index', false⟩ := rfl
  have not_tab : (List.replicate m '\n' ++ (List.replicate j ' ' ++ rest)).head? ≠ some '\t' := by
    rcases m with _ | m
    · obtain ⟨j, rfl⟩ : ∃ n, j = n + 1 := ⟨j - 1, by omega⟩
      exact fun tab => absurd (Option.some.inj tab) (by decide)
    · exact fun tab => absurd (Option.some.inj tab) (by decide)
  have not_at_end : rest.isEmpty = false := List.isEmpty_eq_false_iff.2 more
  have goes_on : ¬(j < indent + 1 ∧ indent ≤ j) := by omega
  rw [blockScalar]
  simp only [opened, header, line_end, Cursor.newline, List.head?_cons, Cursor.atEnd,
    List.isEmpty_cons, Bool.false_eq_true, if_false, ne_eq, not_true, List.drop_one, List.tail_cons]
  cases hint with
  | false =>
    obtain ⟨rfl, rfl, not_space⟩ := seen rfl
    have widest : max (indent + 1) indent = indent + 1 := Nat.max_eq_left (Nat.le_succ indent)
    simp only [Bool.false_eq_true, if_false, if_true, List.replicate_zero, List.nil_append, widest,
      blockStart_eq (Nat.succ_pos _) not_break not_space, not_at_end, if_neg goes_on]
    rfl
  | true =>
    have two_ne_zero : (2 : Nat) ≠ 0 := by decide
    have depth_eq : indent - 1 + 2 = indent + 1 := by omega
    have enough : m < (List.replicate m '\n' ++ (List.replicate j ' ' ++ rest)).length + 1 := by
      rw [List.length_append, List.length_replicate]
      omega
    have narrow : j ≤ indent + 1 := by omega
    simp only [if_neg not_tab, if_true, depth_eq, blockIndent_eq narrow not_break stops enough,
      Nat.zero_add, not_at_end, if_neg goes_on, if_neg two_ne_zero, Bool.false_eq_true,
      if_false, decide_true]

/-! ### Texts that are written as blocks -/

/-- A block ends as its text does. -/
theorem getLast?_blockText (depth : Nat) (start : Bool) (cs : List Char) :
    (blockText depth start cs).getLast? = cs.getLast? := by
  induction cs generalizing start with
  | nil => rfl
  | cons c cs ih =>
    rw [blockText, indentLines, List.getLast?_cons]
    split
    · rw [List.getLast?_cons]
      exact congrArg (fun last => some (last.getD c)) (ih true)
    · rw [List.getLast?_append]
      have last := ih false
      rw [blockText] at last
      rw [last]
      cases cs.getLast? <;> simp

/-- Line ends at the end of a block are not indented. -/
theorem blockText_append_breaks (start : Bool) (cs : List Char) (n : Nat) :
    blockText depth start (cs ++ List.replicate n '\n') =
      blockText depth start cs ++ List.replicate n '\n' := by
  induction cs generalizing start with
  | nil =>
    induction n generalizing start with
    | zero => rfl
    | succ n ih => exact congrArg ('\n' :: ·) (ih true)
  | cons c cs ih =>
    unfold blockText at ih ⊢
    rw [List.cons_append, indentLines, indentLines]
    split
    · rw [ih, List.cons_append]
    · simp only [ih, List.append_assoc]

/-- Behind the last line with content there is a line end, and then the empty lines. -/
theorem endLine_append {c : Char} (inside : isBreak c = false) (front : List Char) (n : Nat) :
    endLine (front ++ c :: List.replicate n '\n') =
      front ++ c :: '\n' :: List.replicate (n - 1) '\n' := by
  cases n with
  | zero => simp [endLine, inside]
  | succ n =>
    have last : (front ++ c :: List.replicate (n + 1) '\n').getLast? = some '\n' := by
      rw [List.replicate_succ', ← List.cons_append, ← List.append_assoc, List.getLast?_concat]
    rw [endLine, last]
    rfl

/-- A text is a number of line ends, a body or nothing, and again a number of line ends. -/
theorem exists_body (cs : List Char) :
    ∃ m, cs = List.replicate m '\n' ∨
      ∃ body n, cs = List.replicate m '\n' ++ (body ++ List.replicate n '\n') ∧ Body body := by
  obtain ⟨m, later, rfl, first⟩ := exists_run '\n' cs
  obtain ⟨n, rest, reversed, last⟩ := exists_run '\n' later.reverse
  obtain rfl : later = rest.reverse ++ List.replicate n '\n' := by
    rw [← List.reverse_reverse later, reversed, List.reverse_append, List.reverse_replicate]
  refine ⟨m, ?_⟩
  by_cases empty : rest = []
  · subst empty
    cases n with
    | zero => exact .inl (List.append_nil _)
    | succ n => exact absurd rfl first
  · refine .inr ⟨rest.reverse, n, rfl, ?_, ?_, ?_⟩
    · exact fun h => empty (List.reverse_eq_nil_iff.1 h)
    · intro h
      refine first ?_
      rw [List.head?_append, h]
      rfl
    · rwa [List.getLast?_reverse]

/-- A block is no shorter than its text, so that there is fuel enough for it. -/
theorem length_le_blockText (depth : Nat) (start : Bool) (cs : List Char) :
    cs.length ≤ (blockText depth start cs).length := by
  induction cs generalizing start with
  | nil => exact Nat.le_refl 0
  | cons c cs ih =>
    unfold blockText at ih ⊢
    rw [indentLines]
    split
    · exact Nat.succ_le_succ (ih true)
    · have := ih false
      simp only [List.length_append, List.length_cons, List.length_nil]
      omega

/-- The last character of a body is no line break of any kind. -/
theorem Body.exists_last (h : Body body) (lines : LineFeeds body) :
    ∃ c, body.getLast? = some c ∧ isBreak c = false := by
  refine ⟨_, List.getLast?_eq_some_getLast h.not_empty, Bool.eq_false_iff.2 fun is_break => ?_⟩
  refine h.last ((List.getLast?_eq_some_getLast h.not_empty).trans ?_)
  rw [lines _ (List.getLast_mem h.not_empty) is_break]

/-- What is seen of the indentation at the start of a block. -/
theorem Body.seen (h : Body body)
    (unseen : hinted (List.replicate m '\n' ++ (body ++ tail)) = false) :
    m = 0 ∧ body.head? ≠ some ' ' := by
  cases m with
  | succ m => cases unseen
  | zero =>
    refine ⟨rfl, fun space => ?_⟩
    cases body with
    | nil => exact h.not_empty rfl
    | cons c body =>
      obtain rfl : c = ' ' := Option.some.inj space
      cases unseen

/-- A text as a block, from its bar to the line end behind it. -/
theorem Body.scalarText_eq (h : Body body) (lines : LineFeeds body)
    (style : Style.of (List.replicate m '\n' ++ (body ++ List.replicate n '\n')) = .literal) :
    endLine (scalarText depth (List.replicate m '\n' ++ (body ++ List.replicate n '\n'))) =
      '|' :: (hintText (hinted (List.replicate m '\n' ++ (body ++ List.replicate n '\n'))) ++
        (Chomping.of n).mark ++ '\n' :: (List.replicate m '\n' ++ (List.replicate depth ' ' ++
          (blockText depth false body ++ '\n' :: List.replicate (n - 1) '\n')))) := by
  obtain ⟨c, last, inside⟩ := h.exists_last lines
  have lines_eq : indentLines depth (fun c => [c]) true
      (List.replicate m '\n' ++ (body ++ List.replicate n '\n')) = List.replicate m '\n' ++
        (List.replicate depth ' ' ++ (blockText depth false body ++ List.replicate n '\n')) := by
    rw [indentLines_breaks]
    refine congrArg (_ ++ ·) ?_
    rw [← List.append_assoc, ← h.blockText_start lines]
    exact blockText_append_breaks true body n
  obtain ⟨written, written_eq⟩ := List.getLast?_eq_some_iff.1
    ((getLast?_blockText depth false body).trans last)
  obtain ⟨init, rfl⟩ := List.getLast?_eq_some_iff.1 last
  have header := literalHeader_append (n := n) inside (List.replicate m '\n' ++ init)
  rw [scalarText, style]
  simp only [lines_eq, written_eq]
  simp only [List.append_assoc, List.cons_append, List.nil_append] at header ⊢
  rw [header]
  have := endLine_append inside
    ('|' :: (hintText (hinted (List.replicate m '\n' ++ (init ++ c :: List.replicate n '\n'))) ++
        (Chomping.of n).mark ++ '\n' :: (List.replicate m '\n' ++ (List.replicate depth ' ' ++
          written)))) n
  simpa only [List.append_assoc, List.cons_append, List.nil_append] using this

/-- A text of line ends only has no line with content. -/
theorem literal_breaks_eq (style : Style.of (List.replicate (m + 1) '\n') = .literal)
    (token : Token next) (more : next ≠ []) (less : k < indent) (line col index : Nat)
    (lead : Bool) :
    ∃ line' index', blockScalar indent
        ⟨endLine (scalarText (indent + 1) (List.replicate (m + 1) '\n')) ++
          (List.replicate k ' ' ++ next), line, col, index, lead⟩ =
      some (List.replicate (m + 1) '\n', ⟨next, line', k, index', true⟩) := by
  have text_eq : endLine (scalarText (indent + 1) (List.replicate (m + 1) '\n')) =
      '|' :: (hintText true ++ Chomping.keep.mark ++ '\n' :: List.replicate (m + 1) '\n') := by
    have lines_eq : indentLines (indent + 1) (fun c => [c]) true (List.replicate (m + 1) '\n') =
        List.replicate (m + 1) '\n' := blockText_append_breaks true [] (m + 1)
    rw [scalarText, style]
    simp only [literalHeader_breaks, lines_eq]
    exact endLine_append (c := '+') (by decide) ['|', '2'] (m + 2)
  obtain ⟨index', open_eq⟩ : ∃ index', blockScalar indent
      ⟨'|' :: (hintText true ++ Chomping.keep.mark ++
        '\n' :: (List.replicate (m + 1) '\n' ++ (List.replicate k ' ' ++ next))),
        line, col, index, lead⟩ =
      some (blockContent true .keep (indent + 1) (m + 1)
        ⟨next, line + 1 + (m + 1), k, index', true⟩) :=
    blockScalar_open (Nat.zero_lt_of_lt less) (.inr less) (.inl m.succ_pos) nofun
      token.not_space.2 (.inr token.not_space.1) more
  have not_inside : ¬(k = indent + 1 ∧ ¬(indent + 1 = 0 ∧
      (Cursor.mk next (line + 1 + (m + 1)) k index' true).atMark '.')) := fun inside =>
    Nat.ne_of_lt (Nat.lt_succ_of_lt less) inside.1
  refine ⟨line + 1 + (m + 1), index', ?_⟩
  rw [text_eq]
  simp only [List.append_assoc, List.cons_append] at open_eq ⊢
  rw [open_eq, blockContent, if_neg not_inside]
  rfl

/-- A text with a body is read back from its block. -/
theorem Body.literal_eq (h : Body body) (lines : LineFeeds body)
    (style : Style.of (List.replicate m '\n' ++ (body ++ List.replicate n '\n')) = .literal)
    (token : Token next) (more : next ≠ []) (less : k < indent) (line col index : Nat)
    (lead : Bool) :
    ∃ line' index', blockScalar indent
        ⟨endLine (scalarText (indent + 1) (List.replicate m '\n' ++
          (body ++ List.replicate n '\n'))) ++ (List.replicate k ' ' ++ next),
          line, col, index, lead⟩ =
      some (List.replicate m '\n' ++ (body ++ List.replicate n '\n'),
        ⟨next, line', k, index', true⟩) := by
  -- the text from the first character of the body on
  let inner := blockText (indent + 1) false body ++
    '\n' :: (List.replicate (n - 1) '\n' ++ (List.replicate k ' ' ++ next))
  have first : inner.head? = body.head? := h.blockText_head lines _
  obtain ⟨index', open_eq⟩ : ∃ index', blockScalar indent
      ⟨'|' :: (hintText (hinted (List.replicate m '\n' ++ (body ++ List.replicate n '\n'))) ++
        (Chomping.of n).mark ++
          '\n' :: (List.replicate m '\n' ++ (List.replicate (indent + 1) ' ' ++ inner))),
        line, col, index, lead⟩ =
      some (blockContent true (.of n) (indent + 1) m
        ⟨inner, line + 1 + m, indent + 1, index', true⟩) := by
    refine blockScalar_open (Nat.zero_lt_of_lt less) (.inl rfl) (.inr indent.succ_pos)
      (fun unseen => ?_) (first ▸ h.first) (.inl rfl)
      (List.append_ne_nil_of_right_ne_nil _ (List.cons_ne_nil _ _))
    exact ⟨(h.seen unseen).1, rfl, first ▸ (h.seen unseen).2⟩
  obtain ⟨line', index'', lines_eq⟩ : ∃ line' index'',
      blockLines true (.of n) (indent + 1) (inner.length + 1) (fun _ => List.replicate m '\n')
        ⟨inner, line + 1 + m, indent + 1, index', true⟩ =
      (List.replicate m '\n' ++ body ++ (Chomping.of n).ending (n - 1),
        ⟨next, line', k, index'', true⟩) := by
    refine blockLines_eq h lines token more (Nat.lt_succ_of_lt less) ?_
    have := length_le_blockText (indent + 1) false body
    rw [List.length_append]
    omega
  refine ⟨line', index'', ?_⟩
  rw [h.scalarText_eq lines style]
  simp only [inner, List.append_assoc, List.cons_append] at open_eq lines_eq ⊢
  rw [open_eq, blockContent, if_pos ⟨rfl, fun zero => absurd zero.1 indent.succ_ne_zero⟩, lines_eq,
    Chomping.ending_of]

/-- A text that is written as a block is read up to the token behind it. -/
theorem Style.literal_eq (style : Style.of cs = .literal) (lines : LineFeeds cs)
    (token : Token next) (more : next ≠ []) (less : k < indent) (line col index : Nat)
    (lead : Bool) :
    ∃ line' index', blockScalar indent
        ⟨endLine (scalarText (indent + 1) cs) ++ (List.replicate k ' ' ++ next),
          line, col, index, lead⟩ =
      some (cs, ⟨next, line', k, index', true⟩) := by
  obtain ⟨m, rfl | ⟨body, n, rfl, body_ok⟩⟩ := exists_body cs
  · cases m with
    | zero => exact absurd (Style.of_eq_literal style).1 List.not_mem_nil
    | succ m => exact literal_breaks_eq style token more less line col index lead
  · exact body_ok.literal_eq
      (lines.mono fun c mem => List.mem_append_right _ (List.mem_append_left _ mem))
      style token more less line col index lead

end SampleBank.Yaml
