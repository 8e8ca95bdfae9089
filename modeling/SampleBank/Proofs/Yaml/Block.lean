import Mathlib.Data.Option.Basic
import SampleBank.Proofs.Yaml.Literal
import SampleBank.Proofs.Yaml.Plain
import SampleBank.Proofs.Yaml.Quoted

/-!
# Blocks that are read back

Nodes stand in lines, so that reading one ends at the token of a later line:
`Read.Ends m c a next k` says that the step `m`, begun at `c`, returns `a` and stands before `next`,
which is `k` columns in. With that the parts of a block can be put together without counting lines
or characters. A text ends so however it is written (`Read.ends_text`), a map from its entries
(`Read.Ends.map`, `Read.Ends.entry`), and a list at the start of the lines from its items
(`Read.ends_items`).
-/

namespace SampleBank.Yaml

/-- The node of a content without properties. -/
def Content.toNode : Content → Node
  | .plain text => .ofPlain text
  | .node value | .alias value => value

/-- Whether a content stands here that starts in a way of its own: no mark of a block, and no
property. -/
structure Inline (s : Cursor) : Prop where
  item : s.atIndicator '-' = false
  mark : s.atIndicator '?' = false
  colon : s.atIndicator ':' = false
  block : s.rest.head? ≠ some '|' ∧ s.rest.head? ≠ some '>'
  property : Read.atProperty s = false

/-- A plain text may start with a mark only if a word goes on behind it, and with other indicators
not at all. -/
theorem startsPlain_cons {c : Char} {rest : List Char} (h : startsPlain false (c :: rest) = true) :
    (c = '-' ∨ c = '?' ∨ c = ':' → startsBlank rest = false) ∧
      ∀ d ∈ ['|', '>', '&', '!', '*', '"', '\'', '[', '\x7b'], c ≠ d := by
  refine ⟨?_, ?_⟩
  · rintro (rfl | rfl | rfl)
    · exact Bool.eq_false_iff.2 fun blank => by simp [startsPlain, blank] at h
    · exact Bool.eq_false_iff.2 fun blank => by simp [startsPlain, blank] at h
    · exact Bool.eq_false_iff.2 fun blank => by simp [startsPlain, blank] at h
  · rintro d mem rfl
    simp only [List.mem_cons, List.not_mem_nil, or_false] at mem
    rcases mem with rfl | rfl | rfl | rfl | rfl | rfl | rfl | rfl | rfl <;>
      exact Bool.false_ne_true h

/-- Whether a text starts plainly does not depend on what stands behind it. -/
theorem startsPlain_append {cs : List Char} (h : startsPlain false cs = true) (tail : List Char) :
    startsPlain false (cs ++ tail) = true := by
  cases cs with
  | nil => cases h
  | cons c rest =>
    have goes_on (h : startsBlank rest = false) : startsBlank (rest ++ tail) = false :=
      Bool.eq_false_iff.2 fun blank =>
        Bool.false_ne_true (h.symm.trans (startsBlank_of_append blank))
    obtain ⟨alone, -⟩ := startsPlain_cons h
    rw [startsPlain] at h
    rw [List.cons_append, startsPlain]
    split
    · rename_i mark
      rw [goes_on (alone (mark.imp_right .inl)), Bool.not_false]
    split
    · rename_i mark
      rw [goes_on (alone (.inr (.inr mark)))]
      rfl
    · rename_i mark no_colon
      rwa [if_neg mark, if_neg no_colon] at h

/-- A plain text starts in a way of its own. -/
theorem Inline.of_plain {s : Cursor} (h : startsPlain false s.rest = true) : Inline s := by
  obtain ⟨rest, line, col, index, lead⟩ := s
  cases rest with
  | nil => cases h
  | cons c rest =>
    obtain ⟨alone, marks⟩ := startsPlain_cons h
    have indicator {d : Char} (mem : d = '-' ∨ d = '?' ∨ d = ':') :
        (Cursor.mk (c :: rest) line col index lead).atIndicator d = false := by
      rw [Cursor.atIndicator_cons]
      by_cases same : c = d
      · rw [alone (same ▸ mem), Bool.and_false]
      · rw [decide_eq_false same, Bool.false_and]
    simp only [List.mem_cons, List.not_mem_nil, or_false, forall_eq_or_imp, forall_eq] at marks
    refine ⟨indicator (.inl rfl), indicator (.inr (.inl rfl)), indicator (.inr (.inr rfl)), ?_, ?_⟩
    · simp [marks]
    · simp [Read.atProperty, marks]

/-- So do texts in quotes and flow lists. -/
theorem Inline.of_head {s : Cursor} {c : Char} (head : s.rest.head? = some c)
    (h : c = '"' ∨ c = '\'' ∨ c = '[') : Inline s := by
  obtain ⟨rest, line, col, index, lead⟩ := s
  cases rest with
  | nil => cases head
  | cons d rest =>
    obtain rfl : d = c := Option.some.inj head
    have no_block : d ≠ '|' ∧ d ≠ '>' := by rcases h with rfl | rfl | rfl <;> decide
    have block : some d ≠ some '|' ∧ some d ≠ some '>' :=
      no_block.imp (fun ne h => ne (Option.some.inj h)) fun ne h => ne (Option.some.inj h)
    rcases h with rfl | rfl | rfl <;> exact ⟨rfl, rfl, rfl, block, rfl⟩

namespace Read

variable {α β : Type} {m : Read α} {f : α → Read β} {a : α} {b : β} {c s t : Cursor}
  {cs key next next' rest : List Char} {line col index indent bound fuel k k' : Nat}
  {lead allowed hyphen inMap : Bool} {node value : Node} {nodes : List Node} {content : Content}

/-- A step returns a value and stands at the token of a later line, `k` columns in. -/
def Ends (m : Read α) (c : Cursor) (a : α) (next : List Char) (k : Nat) : Prop :=
  ∃ line index, Runs m c a ⟨next, line, k, index, true⟩

/-- A step that stops at a token on a later line ends there. -/
theorem Runs.ends (h : Runs m c a ⟨next, line, k, index, true⟩) : Ends m c a next k :=
  ⟨line, index, h⟩

/-- A step within the line can stand in front of one that ends. -/
theorem Runs.bind_ends (first : Runs m c a s) (second : Ends (f a) s b next k) :
    Ends (m >>= f) c b next k := by
  obtain ⟨line, index, second⟩ := second
  exact ⟨line, index, first.bind second⟩

/-- The step behind one that ends goes on from a line that need not be known. -/
theorem Ends.bind (first : Ends m c a next k)
    (second : ∀ line index, Ends (f a) ⟨next, line, k, index, true⟩ b next' k') :
    Ends (m >>= f) c b next' k' := by
  obtain ⟨line, index, first⟩ := first
  exact first.bind_ends (second line index)

/-- A content without properties is complete as it stands. -/
theorem runs_finish (content : Content) (c : Cursor) :
    Runs (finish .none content) c content.toNode c := by
  cases content <;> exact fun bound => ⟨bound, rfl⟩

/-! ### Contents in a line -/

/-- A plain scalar is read by the reader of contents in a line. -/
theorem runs_inline_plain (starts : startsPlain false c.rest = true)
    (read : plainScalar false indent c = some (cs, t)) :
    Runs (inline indent bound) c (.plain cs) t := by
  unfold inline
  refine (runs_cursor c).bind ?_
  have marks {d : Char} (head : c.rest.head? = some d)
      (mem : d ∈ ['|', '>', '&', '!', '*', '"', '\'', '[', '\x7b']) : False := by
    cases rest_eq : c.rest with
    | nil => rw [rest_eq] at head; cases head
    | cons e rest =>
      rw [rest_eq] at head starts
      exact (startsPlain_cons starts).2 d mem (Option.some.inj head)
  split
  · exact (marks ‹_› (by decide)).elim
  · exact (marks ‹_› (by decide)).elim
  · exact (marks ‹_› (by decide)).elim
  · exact (marks ‹_› (by decide)).elim
  · exact (marks ‹_› (by decide)).elim
  · exact (runs_guard starts c).bind ((runs_scan read).bind (runs_pure _ t))

/-- A scalar in quotes is read by the reader of contents in a line. -/
theorem runs_inline_quoted {quote : Char} (is_quote : quote = '"' ∨ quote = '\'')
    (head : c.rest.head? = some quote)
    (read : quotedScalar false quote bound c = some (cs, t)) :
    Runs (inline indent bound) c (.node (.text cs)) t := by
  have quote_eq : c.rest.headD '"' = quote := by
    rw [List.headD_eq_head?_getD, head, Option.getD_some]
  unfold inline
  refine (runs_cursor c).bind ?_
  rw [quote_eq, head]
  rcases is_quote with rfl | rfl <;> exact (runs_scan read).bind (runs_pure _ t)

/-- A content in a line whose end leads to the next token. -/
theorem runs_blockContent (inline : Inline c) (read : Runs (Read.inline indent bound) c content s)
    (leads : s.LeadsTo t) (below : t.line ≠ c.line) :
    Runs (blockContent indent bound (fuel + 1) allowed c .none .none) c content.toNode t := by
  unfold blockContent
  refine (runs_cursor c).bind ?_
  rw [inline.item, inline.mark, inline.colon]
  simp only [Bool.false_eq_true, if_false, inline.block, or_self]
  refine read.bind ((runs_skip (leads bound)).bind ?_)
  rw [decide_eq_false below, Bool.false_and, if_neg Bool.false_ne_true]
  exact (runs_liftM rfl t).bind (runs_finish content t)

/-- A block of lines. -/
theorem runs_blockContent_block (head : c.rest.head? = some '|')
    (read : blockScalar indent c = some (cs, t)) :
    Runs (blockContent indent bound (fuel + 1) allowed c .none .none) c (.text cs) t := by
  obtain ⟨rest, line, col, index, lead⟩ := c
  cases rest with
  | nil => cases head
  | cons d rest =>
    obtain rfl : d = '|' := Option.some.inj head
    unfold blockContent
    refine (runs_cursor _).bind ?_
    exact (runs_liftM rfl _).bind ((runs_scan read).bind (runs_finish (.node (.text cs)) t))

/-- A node that is not empty, from where its token stands. -/
theorem Ends.blockValue (leads : c.LeadsTo t) (inside : indent ≤ t.col)
    (more : t.atDocumentEnd = false) (property : atProperty t = false)
    (h : Ends (blockContent indent bound fuel (allowed || t.lead) t .none .none) t node next k) :
    Ends (blockValue indent bound hyphen (fuel + 1) allowed .none) c node next k := by
  unfold Read.blockValue
  refine (runs_skip (leads bound)).bind_ends ?_
  rw [more, decide_eq_false (Nat.not_lt.2 inside), property, Bool.false_or,
    if_neg Bool.false_ne_true, if_neg Bool.false_ne_true]
  exact h

/-! ### Texts, numbers and empty lists -/

/-- A plain scalar is read up to the token behind it. -/
theorem ends_plain (plain : PlainText cs) (token : Token next) (less : k < indent)
    (inside : indent ≤ col)
    (leads : c.LeadsTo ⟨cs ++ '\n' :: (List.replicate k ' ' ++ next), line, col, index, lead⟩) :
    Ends (blockValue indent bound hyphen (fuel + 2) allowed .none) c (.ofPlain cs) next k := by
  obtain ⟨index', read⟩ : ∃ index', plainScalar false indent
      ⟨cs ++ '\n' :: (List.replicate k ' ' ++ next), line, col, index, lead⟩ =
        some (cs, ⟨next, line + 1, k, index', true⟩) := plain.plainScalar_eq token less inside
  have starts : startsPlain false (cs ++ '\n' :: (List.replicate k ' ' ++ next)) = true :=
    startsPlain_append plain.starts _
  have inline : Inline ⟨cs ++ '\n' :: (List.replicate k ' ' ++ next), line, col, index, lead⟩ :=
    .of_plain starts
  refine Ends.blockValue leads inside (Cursor.atDocumentEnd_eq_false ?_ ?_) inline.property
    (runs_blockContent inline (runs_inline_plain starts read)
      (Cursor.leadsTo_self token) (Nat.succ_ne_self line)).ends
  · exact Nat.lt_of_lt_of_le (Nat.zero_lt_of_lt less) inside
  · exact List.append_ne_nil_of_right_ne_nil _ (List.cons_ne_nil _ _)

/-- Plain texts do not end in a line break, so that one is added. -/
theorem endLine_plain (style : Style.of cs = .plain) : endLine cs = cs ++ ['\n'] := by
  obtain ⟨-, -, -, allowed⟩ := Style.of_eq_plain style
  rw [plainAllowed, Bool.not_eq_true', Bool.or_eq_false_iff, Bool.or_eq_false_iff,
    Bool.or_eq_false_iff, Bool.or_eq_false_iff] at allowed
  have not_ended : cs.getLast?.any isBreak = false := by
    cases last : cs.getLast? with
    | none => rfl
    | some c =>
      exact Bool.eq_false_iff.2
        (List.any_eq_false.1 allowed.1.1.1.1 c (List.mem_of_mem_getLast? last))
  rw [endLine, not_ended, if_neg Bool.false_ne_true]

/-- Ending the line only adds something at the end. -/
theorem exists_endLine (cs : List Char) : ∃ tail, endLine cs = cs ++ tail := by
  unfold endLine
  split
  · exact ⟨[], (List.append_nil cs).symm⟩
  · exact ⟨['\n'], rfl⟩

/-- A text starts with a token, however it is written. -/
theorem token_text (depth : Nat) (cs rest : List Char) :
    Token (endLine (scalarText depth cs) ++ rest) := by
  obtain ⟨tail, ended⟩ := exists_endLine (scalarText depth cs)
  rw [ended, List.append_assoc, scalarText]
  cases style : Style.of cs with
  | plain => exact (Style.plainText style).token _
  | single => exact token_cons (by decide)
  | double => exact token_cons (by decide)
  | literal => exact token_cons (by decide)

/-- A text in quotes. -/
theorem ends_quoted (style : Style.of cs = .double ∨ Style.of cs = .single ∧ LineFeeds cs)
    (token : Token next) (less : k < indent) (inside : indent ≤ col) (bounded : bound ≤ col)
    (leads : c.LeadsTo ⟨endLine (scalarText (indent + 1) cs) ++ (List.replicate k ' ' ++ next),
      line, col, index, lead⟩) :
    Ends (blockValue indent bound hyphen (fuel + 2) allowed .none) c (.text cs) next k := by
  obtain ⟨quote, rest, is_quote, text_eq, read⟩ := Style.quoted_eq (indent + 1) style
  let t : Cursor := ⟨quote :: (rest ++ (List.replicate k ' ' ++ next)), line, col, index, lead⟩
  obtain ⟨col', index', read⟩ : ∃ col' index', quotedScalar false quote bound t =
      some (cs, ⟨'\n' :: (List.replicate k ' ' ++ next), line, col', index', false⟩) :=
    read bound _ line col index lead bounded
  have inline : Inline t := .of_head rfl (is_quote.imp_right .inl)
  rw [text_eq, List.cons_append] at leads
  exact Ends.blockValue leads inside
    (Cursor.atDocumentEnd_eq_false (Nat.lt_of_lt_of_le (Nat.zero_lt_of_lt less) inside)
      (List.cons_ne_nil _ _)) inline.property
    (runs_blockContent inline (runs_inline_quoted is_quote rfl read)
      (Cursor.leadsTo_newline token) (Nat.succ_ne_self line)).ends

/-- A text of several lines. -/
theorem ends_literal (style : Style.of cs = .literal) (lines : LineFeeds cs) (token : Token next)
    (more : next ≠ []) (less : k < indent) (inside : indent ≤ col)
    (leads : c.LeadsTo ⟨endLine (scalarText (indent + 1) cs) ++ (List.replicate k ' ' ++ next),
      line, col, index, lead⟩) :
    Ends (blockValue indent bound hyphen (fuel + 2) allowed .none) c (.text cs) next k := by
  obtain ⟨line', index', read⟩ := Style.literal_eq style lines token more less line col index lead
  obtain ⟨rest, text_eq⟩ : ∃ rest, endLine (scalarText (indent + 1) cs) = '|' :: rest := by
    obtain ⟨tail, ended⟩ := exists_endLine (scalarText (indent + 1) cs)
    rw [ended, scalarText, style]
    exact ⟨_, rfl⟩
  rw [text_eq, List.cons_append] at leads read
  exact Ends.blockValue leads inside
    (Cursor.atDocumentEnd_eq_false (Nat.lt_of_lt_of_le (Nat.zero_lt_of_lt less) inside)
      (List.cons_ne_nil _ _)) rfl (runs_blockContent_block rfl read).ends

/-- A text is read up to the token behind it. -/
theorem ends_text (kept : Kept cs) (token : Token next) (more : next ≠ []) (less : k < indent)
    (inside : indent ≤ col) (bounded : bound ≤ col)
    (leads : c.LeadsTo ⟨endLine (scalarText (indent + 1) cs) ++ (List.replicate k ' ' ++ next),
      line, col, index, lead⟩) :
    Ends (blockValue indent bound hyphen (fuel + 2) allowed .none) c (.text cs) next k := by
  cases style : Style.of cs with
  | plain =>
    have plain_leads : c.LeadsTo ⟨cs ++ '\n' :: (List.replicate k ' ' ++ next),
        line, col, index, lead⟩ := by
      rw [scalarText, style] at leads
      simpa only [endLine_plain style, List.append_assoc, List.singleton_append] using leads
    rw [← Style.ofPlain_eq style]
    exact ends_plain (Style.plainText style) token less inside plain_leads
  | single =>
    have lines : LineFeeds cs := kept.resolve_left (by rw [style]; rintro ⟨⟩)
    exact ends_quoted (.inr ⟨style, lines⟩) token less inside bounded leads
  | double => exact ends_quoted (.inl style) token less inside bounded leads
  | literal =>
    have lines : LineFeeds cs := kept.resolve_left (by rw [style]; rintro ⟨⟩)
    exact ends_literal style lines token more less inside leads

/-- A number that is not too large is read up to the token behind it. -/
theorem ends_number (n : Nat) (small : (n : Int) ≤ Numeral.maxInt) (token : Token next)
    (less : k < indent) (inside : indent ≤ col)
    (leads : c.LeadsTo ⟨Nat.toDigits 10 n ++ '\n' :: (List.replicate k ' ' ++ next),
      line, col, index, lead⟩) :
    Ends (blockValue indent bound hyphen (fuel + 2) allowed .none) c (.integer n) next k := by
  rw [← ofPlain_toDigits small]
  exact ends_plain (plainText_toDigits n) token less inside leads

/-! ### Keys -/

/-- A space or a line end stands behind the colon of a key. -/
def Gap (rest : List Char) : Prop := rest.head? = some ' ' ∨ rest.head? = some '\n'

theorem Gap.startsBlank (h : Gap rest) : startsBlank rest = true := by
  cases rest with
  | nil => rfl
  | cons c rest => rcases h with h | h <;> exact Option.some.inj h ▸ rfl

theorem Gap.not_tab (h : Gap rest) : rest.head? ≠ some '\t' := by
  rcases h with h | h <;> rw [h] <;> decide

/-- What a key is like that can be read without quotes, and that starts no other kind of line. -/
structure KeyText (key : List Char) : Prop where
  starts : startsPlain false key = true
  word : ∀ c ∈ key, isSpace c = false ∧ c ≠ ':'
  letter : ∀ c ∈ key.head?, c ≠ '#' ∧ c ≠ '-' ∧ c ≠ '.' ∧ c ≠ '%'
  text : Node.ofPlain key = .text key
  short : key.length ≤ maxKeyLength

namespace KeyText

/-- A key starts with a character that is no blank and no mark of a line. -/
theorem head (h : KeyText key) (rest : List Char) :
    ∃ c, (key ++ rest).head? = some c ∧ isSpace c = false ∧
      c ≠ '#' ∧ c ≠ '-' ∧ c ≠ '.' ∧ c ≠ '%' := by
  cases key with
  | nil => cases h.starts
  | cons c key => exact ⟨c, rfl, (h.word c List.mem_cons_self).1, h.letter c rfl⟩

/-- Where a key stands there is text. -/
theorem append_ne_nil (h : KeyText key) (rest : List Char) : key ++ rest ≠ [] := by
  refine List.append_ne_nil_of_left_ne_nil ?_ rest
  rintro rfl
  cases h.starts

/-- A key is a token. -/
theorem token (h : KeyText key) (rest : List Char) : Token (key ++ rest) := by
  obtain ⟨c, head, space, mark, -⟩ := h.head rest
  intro d first
  obtain rfl : d = c := Option.some.inj (first.symm.trans head)
  exact ⟨space, mark⟩

/-- A key is no item of a list. -/
theorem no_item (h : KeyText key) (rest : List Char) : (key ++ rest).head? ≠ some '-' := by
  obtain ⟨c, head, -, -, ne, -⟩ := h.head rest
  rw [head]
  exact fun same => ne (Option.some.inj same)

/-- No document ends where a key stands. -/
theorem atDocumentEnd (h : KeyText key) (rest : List Char) :
    (Cursor.mk (key ++ rest) line col index lead).atDocumentEnd = false := by
  obtain ⟨c, head, -, -, start, stop, directive⟩ := h.head rest
  exact Cursor.atDocumentEnd_of_head head start stop directive

/-- A key starts in a way of its own. -/
theorem inline (h : KeyText key) (rest : List Char) :
    Inline ⟨key ++ rest, line, col, index, lead⟩ :=
  .of_plain (startsPlain_append h.starts rest)

/-- A key is read up to its colon. -/
theorem runs_inline (h : KeyText key) (gap : Gap rest) :
    Runs (Read.inline indent bound) ⟨key ++ ':' :: rest, line, col, index, lead⟩ (.plain key)
      ⟨':' :: rest, line, col + key.length, index + key.length, false⟩ :=
  runs_inline_plain (startsPlain_append h.starts _) (plainScalar_key h.word gap.startsBlank)

/-- Behind a key a value is expected. -/
theorem atValue (h : KeyText key) (gap : Gap rest) :
    Read.atValue ⟨key ++ ':' :: rest, line, col, index, lead⟩
      ⟨':' :: rest, line, col + key.length, index + key.length, false⟩ = true := by
  have near : index + key.length - index ≤ maxKeyLength := by
    have := h.short
    omega
  rw [Read.atValue, Cursor.atIndicator_self gap.startsBlank]
  simp only [decide_true, Bool.and_self, near]

end KeyText

/-! ### Maps -/

/-- A colon before a gap is passed over. -/
theorem runs_colon (gap : Gap rest) :
    Runs colon ⟨':' :: rest, line, col, index, lead⟩ ()
      ⟨rest, line, col + 1, index + 1, false⟩ := by
  unfold colon
  refine (runs_advance 1 _).bind ((runs_cursor _).bind (runs_guard ?_ _))
  exact fun tab => gap.not_tab tab.1

/-- A key is read as the text that it is, up to its colon. -/
theorem runs_implicitKey (h : KeyText key) (gap : Gap rest) :
    Runs (implicitKey k) ⟨key ++ ':' :: rest, line, col, index, lead⟩ (.text key)
      ⟨':' :: rest, line, col + key.length, index + key.length, false⟩ := by
  have inline : Inline ⟨key ++ ':' :: rest, line, col, index, lead⟩ := h.inline _
  have token : Token (':' :: rest) := token_cons (by decide)
  unfold implicitKey
  refine (runs_cursor _).bind ?_
  rw [inline.property, if_neg Bool.false_ne_true]
  refine (runs_pure _ _).bind ((runs_cursor _).bind ((runs_guard rfl _).bind ?_))
  rw [inline.colon, if_neg Bool.false_ne_true]
  refine (h.runs_inline gap).bind ((runs_skip (Cursor.leadsTo_self token _)).bind ?_)
  refine (runs_guard (h.atValue gap) _).bind ?_
  have finished := runs_finish (.plain key)
    ⟨':' :: rest, line, col + key.length, index + key.length, false⟩
  rwa [Content.toNode, h.text] at finished

/-- A map is read from its first key on. -/
theorem Ends.map (h : KeyText key) (gap : Gap rest)
    (entry : Ends (blockEntry col false (.text key) fuel)
      ⟨':' :: rest, line, col + key.length, index + key.length, false⟩ nodes next k)
    (pairs : Node.ofPairs? nodes = some node) :
    Ends (blockContent indent bound (fuel + 1) true
        ⟨key ++ ':' :: rest, line, col, index, lead⟩ .none .none)
      ⟨key ++ ':' :: rest, line, col, index, lead⟩ node next k := by
  have inline : Inline ⟨key ++ ':' :: rest, line, col, index, lead⟩ := h.inline _
  have token : Token (':' :: rest) := token_cons (by decide)
  unfold blockContent
  refine (runs_cursor _).bind_ends ?_
  rw [inline.item, inline.mark, inline.colon]
  simp only [Bool.false_eq_true, if_false, inline.block, or_self]
  refine (h.runs_inline gap).bind_ends ?_
  refine (runs_skip (Cursor.leadsTo_self token bound)).bind_ends ?_
  rw [Cursor.atIndicator_self gap.startsBlank, decide_eq_true rfl, Bool.and_self, if_pos rfl]
  refine (runs_guard ⟨trivial, h.atValue gap⟩ _).bind_ends ?_
  refine (runs_finish (.plain key) _).bind_ends ?_
  rw [Content.toNode, h.text]
  obtain ⟨line', index', entry⟩ := entry
  exact (entry.bind ((runs_liftM pairs _).bind (runs_finish (.node node) _))).ends

/-- The value of an entry, and the entries behind it. -/
theorem Ends.entry {place : Nat} (gap : Gap rest)
    (value : Ends (Read.blockValue (col + 1) (col + 1) true fuel false .none)
      ⟨rest, line, place + 1, index + 1, false⟩ node next k)
    (others : ∀ line index, Ends (blockEntries col fuel) ⟨next, line, k, index, true⟩ nodes
      next' k') :
    Ends (blockEntry col false (.text key) (fuel + 1)) ⟨':' :: rest, line, place, index, lead⟩
      (.text key :: node :: nodes) next' k' := by
  unfold blockEntry
  refine (runs_colon gap).bind_ends (value.bind fun line index => ?_)
  obtain ⟨line', index', others⟩ := others line index
  exact (others.bind (runs_pure (.text key :: node :: nodes) _)).ends

/-- The entries of a map from the next key on. -/
theorem Ends.entries (h : KeyText key) (gap : Gap rest)
    (entry : Ends (blockEntry col false (.text key) fuel)
      ⟨':' :: rest, line, col + key.length, index + key.length, false⟩ nodes next k) :
    Ends (blockEntries col (fuel + 1)) ⟨key ++ ':' :: rest, line, col, index, lead⟩ nodes
      next k := by
  have inline : Inline ⟨key ++ ':' :: rest, line, col, index, lead⟩ := h.inline _
  unfold blockEntries
  refine (runs_skip (Cursor.leadsTo_self (h.token _) _)).bind_ends ?_
  rw [h.atDocumentEnd, decide_eq_false (Nat.lt_irrefl col), Bool.or_self, if_neg Bool.false_ne_true]
  refine (runs_guard ⟨rfl, inline.item⟩ _).bind_ends ?_
  rw [inline.mark, inline.colon, if_neg Bool.false_ne_true, if_neg Bool.false_ne_true]
  exact (runs_implicitKey h gap).bind_ends entry

/-- No entries are left at the end of the text, and before a line that is indented less. -/
theorem ends_no_entries (token : Token next) (less : next = [] ∨ k < col) :
    Ends (blockEntries col (fuel + 1)) ⟨next, line, k, index, true⟩ [] next k := by
  have ended : ((Cursor.mk next line k index true).atDocumentEnd || decide (k < col)) = true := by
    rcases less with rfl | less
    · rfl
    · rw [decide_eq_true less, Bool.or_true]
  unfold blockEntries
  refine (runs_skip (Cursor.leadsTo_self token _)).bind_ends ?_
  rw [ended, if_pos rfl]
  exact (runs_pure _ _).ends

/-- An entry whose value is a number. -/
theorem Ends.number_entry (h : KeyText key) (n : Nat) (small : (n : Int) ≤ Numeral.maxInt)
    (token : Token next)
    (others : ∀ line index, Ends (blockEntries col (fuel + 2)) ⟨next, line, col, index, true⟩
      nodes next' k') :
    Ends (blockEntries col (fuel + 4))
      ⟨key ++ ':' :: ' ' :: (Nat.toDigits 10 n ++ '\n' :: (List.replicate col ' ' ++ next)),
        line, col, index, lead⟩ (.text key :: .integer n :: nodes) next' k' := by
  refine .entries h (.inl rfl) (.entry (.inl rfl) ?_ others)
  exact ends_number n small token (Nat.lt_succ_self col) (by omega)
    (Cursor.leadsTo_space ((plainText_toDigits n).token _))

/-! ### Lists -/

/-- The list of a map's value stands in the column of the keys. -/
theorem Ends.list (items : Ends (blockItems col true fuel)
      ⟨'-' :: ' ' :: rest, line, col, index, true⟩ nodes next k)
    (leads : c.LeadsTo ⟨'-' :: ' ' :: rest, line, col, index, true⟩) :
    Ends (Read.blockValue (col + 1) bound true (fuel + 1) allowed .none) c (.list nodes)
      next k := by
  have item : (true && true && decide (col + 1 = col + 1) &&
      (Cursor.mk ('-' :: ' ' :: rest) line col index true).atIndicator '-') = true := by
    rw [Cursor.atIndicator_self rfl, decide_eq_true rfl]
    rfl
  unfold Read.blockValue
  refine (runs_skip (leads bound)).bind_ends ?_
  rw [decide_eq_true (Nat.lt_succ_self col), Bool.or_true, if_pos rfl, item, if_pos rfl]
  obtain ⟨line', index', items⟩ := items
  exact (items.bind (runs_finish (.node (.list nodes)) _)).ends

/-- An item of a list, up to the next token. -/
theorem ends_item (token : Token rest) (token' : Token next)
    (value : ∀ bound, bound ≤ col + 1 →
      Ends (blockValue (col + 1) bound false fuel true .none)
        ⟨rest, line, col + 2, index + 2, false⟩ node next k)
    (after : ∀ line index, let d : Cursor := ⟨next, line, k, index, true⟩
      Ends (if d.atDocumentEnd || d.col < col then pure [node]
        else do
          guard (d.col = col)
          if d.atIndicator '-' then return node :: (← blockItems col true fuel)
          else
            guard (true = true)
            return [node]) d nodes next' k') :
    Ends (blockItems col true (fuel + 1)) ⟨'-' :: ' ' :: rest, line, col, index, lead⟩
      nodes next' k' := by
  have gap : (' ' :: rest).takeWhile isBlank = [' '] := takeWhile_isBlank_space token
  have opened : Cursor.restOfLine ⟨' ' :: rest, line, col + 1, index + 1, false⟩ =
      some ⟨rest, line, col + 2, index + 2, false⟩ := Cursor.restOfLine_space token
  unfold blockItems
  refine (runs_advance 1 _).bind_ends ((runs_cursor _).bind_ends ?_)
  refine (runs_restOfLine opened).bind_ends ((runs_cursor _).bind_ends ?_)
  refine (runs_guard ?_ _).bind_ends ?_
  · intro tab
    have := tab.1
    rw [show (Cursor.chars 1 ⟨'-' :: ' ' :: rest, line, col, index, lead⟩).rest.takeWhile isBlank =
      [' '] from gap] at this
    exact absurd this (by decide)
  refine (value _ ?_).bind fun line index => ?_
  · split
    · exact Nat.le_refl _
    · exact Nat.le_succ col
  exact (runs_skip (Cursor.leadsTo_self token' _)).bind_ends (after line index)

/-- An item before another one. -/
theorem Ends.item (token : Token rest)
    (value : ∀ bound, bound ≤ col + 1 →
      Ends (Read.blockValue (col + 1) bound false fuel true .none)
        ⟨rest, line, col + 2, index + 2, false⟩ node ('-' :: ' ' :: next) col)
    (others : ∀ line index, Ends (blockItems col true fuel)
      ⟨'-' :: ' ' :: next, line, col, index, true⟩ nodes next' k') :
    Ends (blockItems col true (fuel + 1)) ⟨'-' :: ' ' :: rest, line, col, index, lead⟩
      (node :: nodes) next' k' := by
  refine ends_item token (token_cons (by decide)) value fun line index => ?_
  dsimp only
  rw [Cursor.atDocumentEnd_item, decide_eq_false (Nat.lt_irrefl col), Bool.or_self,
    if_neg Bool.false_ne_true, Cursor.atIndicator_self rfl, if_pos rfl]
  obtain ⟨line', index', others⟩ := others line index
  exact ((runs_guard rfl _).bind (others.bind (runs_pure (node :: nodes) _))).ends

/-- The last item of a list. -/
theorem Ends.last_item (token : Token rest) (token' : Token next)
    (value : ∀ bound, bound ≤ col + 1 →
      Ends (Read.blockValue (col + 1) bound false fuel true .none)
        ⟨rest, line, col + 2, index + 2, false⟩ node next k)
    (last : next = [] ∨ k < col ∨ k = col ∧ next.head? ≠ some '-') :
    Ends (blockItems col true (fuel + 1)) ⟨'-' :: ' ' :: rest, line, col, index, lead⟩
      [node] next k := by
  refine ends_item token token' value fun line index => ?_
  dsimp only
  split
  · exact (runs_pure _ _).ends
  rename_i goes_on
  rw [Bool.or_eq_true, not_or, decide_eq_true_iff] at goes_on
  rcases last with rfl | less | ⟨rfl, no_item⟩
  · exact absurd rfl goes_on.1
  · exact absurd less goes_on.2
  · have not_item : (Cursor.mk next line k index true).atIndicator '-' = false := by
      cases next with
      | nil => rfl
      | cons c next =>
        rw [Cursor.atIndicator_cons, decide_eq_false fun h => no_item (congrArg some h),
          Bool.false_and]
    rw [not_item, if_neg Bool.false_ne_true]
    exact ((runs_guard rfl _).bind ((runs_guard rfl _).bind (runs_pure [node] _))).ends

/-- The items of a list at the start of the lines, each written behind a hyphen: it is enough to
know what is read of each of them before whatever may follow. -/
theorem ends_items {write : α → List Char} {toNode : α → Node} {few : Nat} (token : Token rest)
    (no_item : rest.head? ≠ some '-') {items : List α} (not_empty : items ≠ [])
    (tokens : ∀ a ∈ items, ∀ next, Token (write a ++ next))
    (item : ∀ a ∈ items, ∀ next, (next = rest ∨ ∃ later, next = '-' :: ' ' :: later) →
      ∀ fuel bound line index, few ≤ fuel → bound ≤ 1 →
        Ends (blockValue 1 bound false fuel true .none)
          ⟨write a ++ next, line, 2, index, false⟩ (toNode a) next 0)
    (enough : items.length + few ≤ fuel) :
    Ends (blockItems 0 true fuel)
      ⟨items.flatMap (fun a => '-' :: ' ' :: write a) ++ rest, line, 0, index, lead⟩
      (items.map toNode) rest 0 := by
  induction items generalizing fuel line index lead with
  | nil => exact absurd rfl not_empty
  | cons a items ih =>
    rw [List.forall_mem_cons] at tokens item
    rw [List.length_cons] at enough
    obtain ⟨fuel, rfl⟩ : ∃ n, fuel = n + 1 := ⟨fuel - 1, by omega⟩
    rw [List.flatMap_cons, List.append_assoc, List.map_cons]
    cases items with
    | nil =>
      exact Ends.last_item (tokens.1 rest) token
        (fun bound bounded => item.1 rest (.inl rfl) fuel bound line _ (by omega) bounded)
        (.inr (.inr ⟨rfl, no_item⟩))
    | cons b items =>
      obtain ⟨later, later_eq⟩ : ∃ later,
          (b :: items).flatMap (fun a => '-' :: ' ' :: write a) ++ rest = '-' :: ' ' :: later := by
        rw [List.flatMap_cons]
        exact ⟨_, rfl⟩
      have others (line index : Nat) : Ends (blockItems 0 true fuel)
          ⟨(b :: items).flatMap (fun a => '-' :: ' ' :: write a) ++ rest, line, 0, index, true⟩
          ((b :: items).map toNode) rest 0 :=
        ih (List.cons_ne_nil b items) tokens.2 item.2 (by omega)
      rw [later_eq] at others ⊢
      exact Ends.item (tokens.1 _)
        (fun bound bounded => item.1 _ (.inr ⟨later, rfl⟩) fuel bound line _ (by omega) bounded)
        others

/-! ### Empty lists -/

/-- A bracket that closes ends the items. -/
theorem flowItems_bracket (inside : indent ≤ col) (pos : 0 < col) (fuel : Nat) (rest : List Char)
    (line index : Nat) :
    flowItems indent (fuel + 1) 1 ⟨⟨']' :: '\n' :: rest, line, col, index, false⟩, indent, [], []⟩ =
      some ([], ⟨⟨'\n' :: rest, line, col + 1, index + 1, false⟩, indent, [], []⟩) := by
  let c : Cursor := ⟨']' :: '\n' :: rest, line, col, index, false⟩
  have passed : Read.skip indent ⟨c, indent, [], []⟩ = some (c, ⟨c, indent, [], []⟩) := by
    have skip_eq : c.skip indent = some c := Cursor.leadsTo_self (token_cons (by decide)) indent
    rw [Read.skip]
    refine (bind_eq rfl).trans ?_
    change ((liftM (c.skip indent) : Read Cursor) >>= _) _ = _
    rw [skip_eq]
    rfl
  have token : flowToken ⟨c, indent, [], []⟩ = some (c, ⟨c, indent, [], []⟩) := by
    have goes_on : c.atDocumentEnd = false ∧ indent ≤ c.col :=
      ⟨Cursor.atDocumentEnd_eq_false pos (List.cons_ne_nil _ _), inside⟩
    rw [flowToken]
    refine (bind_eq rfl).trans ((bind_eq passed).trans ?_)
    rw [guard_eq_pure goes_on]
    rfl
  rw [flowItems]
  exact (bind_eq token).trans rfl

/-- Two brackets are the empty list. -/
theorem flow_brackets (inside : indent ≤ col) (bound : Nat) :
    flow indent ⟨⟨'[' :: ']' :: '\n' :: rest, line, col, index, lead⟩, bound, [], []⟩ =
      some (.list [], ⟨⟨'\n' :: rest, line, col + 2, index + 2, false⟩, indent, [], []⟩) := by
  have collection (fuel : Nat) : flowCollection indent (fuel + 2) 0
      ⟨⟨'[' :: ']' :: '\n' :: rest, line, col, index, lead⟩, bound, [], []⟩ =
        some (.list [], ⟨⟨'\n' :: rest, line, col + 2, index + 2, false⟩, indent, [], []⟩) := by
    rw [flowCollection]
    exact bind_eq (f := fun items => pure (Node.list items))
      (flowItems_bracket (Nat.le_succ_of_le inside) col.succ_pos fuel rest line (index + 1))
  exact collection (8 * (rest.length + 3) + 6)

/-- Brackets with nothing in between are read up to the token behind them. -/
theorem ends_brackets (token : Token next) (pos : 0 < indent) (inside : indent ≤ col)
    (leads : c.LeadsTo ⟨'[' :: ']' :: '\n' :: (List.replicate k ' ' ++ next),
      line, col, index, lead⟩) :
    Ends (blockValue indent bound hyphen (fuel + 2) allowed .none) c (.list []) next k := by
  let t : Cursor := ⟨'[' :: ']' :: '\n' :: (List.replicate k ' ' ++ next), line, col, index, lead⟩
  have inline : Inline t := .of_head rfl (.inr (.inr rfl))
  have read : Runs (Read.inline indent bound) t (.node (.list []))
      ⟨'\n' :: (List.replicate k ' ' ++ next), line, col + 2, index + 2, false⟩ := fun bound' =>
    ⟨indent, bind_eq (f := fun node => pure (Content.node node)) (flow_brackets inside bound')⟩
  exact Ends.blockValue leads inside
    (Cursor.atDocumentEnd_eq_false (Nat.lt_of_lt_of_le pos inside) (List.cons_ne_nil _ _))
    inline.property
    (runs_blockContent inline read (Cursor.leadsTo_newline token) (Nat.succ_ne_self line)).ends

end Read

end SampleBank.Yaml
