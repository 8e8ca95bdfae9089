import SampleBank.FilePath
import SampleBank.Proofs.Text.Utf8

/-!
# Names of files

A path is read from two sides. Its names in order are what stands between slashes
(`FilePath.names`), and its file name is found from the end, behind what carries no meaning there.
Both sides agree: the file name is the last of the names, unless that is `..` (`fileName?_eq`).

Putting one path behind another puts their names behind each other (`names_join`), whether a slash
had to be added or was there. So a path that is resolved keeps the last name of the file that a
configuration names, and with it what is shown of it (`displayName_resolve`). What a
configuration names is a text, and a slash is no part of another character, so its names are texts
as well, however unreadable the directory is.
-/

namespace SampleBank.FilePath

variable {bytes first rest : List UInt8} {others : List (List UInt8)} {p base : FilePath}

/-! ### Pieces -/

theorem pieces_slash (rest : List UInt8) : pieces (slash :: rest) = [] :: pieces rest := by
  rw [pieces, if_pos rfl]

/-- Bytes without a slash become part of the first piece behind them. -/
theorem pieces_append (unbroken : slash ∉ bytes) (h : pieces rest = first :: others) :
    pieces (bytes ++ rest) = (bytes ++ first) :: others := by
  induction bytes with
  | nil => exact h
  | cons b bytes ih =>
    rw [List.mem_cons, not_or] at unbroken
    rw [List.cons_append, pieces, if_neg (Ne.symm unbroken.1), ih unbroken.2, List.cons_append]

theorem pieces_of_not_mem (unbroken : slash ∉ bytes) : pieces bytes = [bytes] := by
  have pieces_nil : pieces [] = [] :: [] := rfl
  have alone := pieces_append unbroken pieces_nil
  rwa [List.append_nil] at alone

theorem pieces_ne_nil (bytes : List UInt8) : pieces bytes ≠ [] := by
  cases bytes with
  | nil => exact List.cons_ne_nil _ _
  | cons b bytes =>
    rw [pieces]
    split
    · exact List.cons_ne_nil _ _
    · split <;> exact List.cons_ne_nil _ _

/-- A slash separates the pieces before it from those behind it. -/
theorem pieces_append_slash (before after : List UInt8) :
    pieces (before ++ slash :: after) = pieces before ++ pieces after := by
  induction before with
  | nil => exact pieces_slash after
  | cons b before ih =>
    rw [List.cons_append, pieces, pieces, ih]
    split
    · rw [List.cons_append]
    · obtain ⟨piece, others, eq⟩ := List.exists_cons_of_ne_nil (pieces_ne_nil before)
      rw [eq, List.cons_append, List.cons_append]

theorem takeWhile_reverse_append (unbroken : slash ∉ bytes) (before : List UInt8) :
    (bytes.reverse ++ before).takeWhile (· ≠ slash) =
      bytes.reverse ++ before.takeWhile (· ≠ slash) :=
  List.takeWhile_append_of_pos fun _ mem =>
    decide_eq_true fun same => unbroken (same ▸ List.mem_reverse.1 mem)

theorem splitLast_of_not_mem (unbroken : slash ∉ bytes) : (splitLast bytes).2 = bytes := by
  have taken := takeWhile_reverse_append unbroken []
  rw [List.append_nil, List.takeWhile_nil, List.append_nil] at taken
  rw [splitLast, taken, List.reverse_reverse]

theorem splitLast_append_slash (unbroken : slash ∉ bytes) (before : List UInt8) :
    (splitLast (before ++ slash :: bytes)).2 = bytes := by
  have reversed :
      (before ++ slash :: bytes).reverse = bytes.reverse ++ slash :: before.reverse := by
    rw [List.reverse_append, List.reverse_cons, List.append_assoc, List.singleton_append]
  rw [splitLast, reversed, takeWhile_reverse_append unbroken,
    List.takeWhile_cons_of_neg (by simp), List.append_nil, List.reverse_reverse]

/-- What stands behind the last slash is the last piece. -/
theorem exists_pieces_eq (bytes : List UInt8) :
    ∃ outer, pieces bytes = outer ++ [(splitLast bytes).2] := by
  by_cases broken : slash ∈ bytes
  · obtain ⟨after, before, reversed, unbroken⟩ :=
      List.eq_append_cons_of_mem (List.mem_reverse.2 broken)
    have split : bytes = before.reverse ++ slash :: after.reverse := by
      rw [← List.reverse_reverse bytes, reversed, List.reverse_append, List.reverse_cons,
        List.append_assoc, List.singleton_append]
    rw [← List.mem_reverse] at unbroken
    refine ⟨pieces before.reverse, ?_⟩
    rw [split, pieces_append_slash, pieces_of_not_mem unbroken, splitLast_append_slash unbroken]
  · exact ⟨[], by rw [pieces_of_not_mem broken, splitLast_of_not_mem broken, List.nil_append]⟩

/-! ### Names -/

theorem names_append_slash (before after : List UInt8) :
    names ⟨before ++ slash :: after⟩ = names ⟨before⟩ ++ names ⟨after⟩ := by
  rw [names, pieces_append_slash, List.filter_append]
  rfl

/-- A slash at the end carries no meaning. -/
theorem names_append_slash_nil (before : List UInt8) :
    names ⟨before ++ [slash]⟩ = names ⟨before⟩ :=
  (names_append_slash before []).trans (List.append_nil _)

/-- A name `.` at the end carries no meaning. -/
theorem names_append_slash_dot (before : List UInt8) :
    names ⟨before ++ [slash, dot]⟩ = names ⟨before⟩ :=
  (names_append_slash before [dot]).trans (List.append_nil _)

/-- The names of a path that is put behind another stand behind those of the other. -/
theorem names_join (relative : p.isAbsolute = false) :
    (base.join p).names = base.names ++ p.names := by
  obtain ⟨before⟩ := base
  rw [join, if_neg (Bool.eq_false_iff.1 relative)]
  split
  · rename_i ended
    rcases Bool.or_eq_true_iff.1 ended with empty | slashed
    · obtain rfl := List.isEmpty_iff.1 empty
      rfl
    · -- the slash that is there already separates the names, and ends nothing in the first path
      obtain ⟨outer, rfl⟩ := List.getLast?_eq_some_iff.1 (of_decide_eq_true slashed)
      rw [names_append_slash_nil, List.append_assoc, List.singleton_append, names_append_slash]
  · exact names_append_slash before p.bytes

/-! ### Ends that carry no meaning -/

theorem names_trimReversed (bytes : List UInt8) :
    names ⟨(trimReversed bytes).reverse⟩ = names ⟨bytes.reverse⟩ := by
  induction bytes using trimReversed.induct with
  | case1 => rfl
  | case2 => rfl
  | case3 b other => rw [trimReversed, if_neg other]
  | case4 c rest ih =>
    -- the piece behind the slash is empty
    rw [trimReversed, if_pos rfl, ih, List.reverse_cons (a := slash), names_append_slash_nil]
  | case5 b c rest other alone ih =>
    -- the piece behind the slash is a dot; the slash itself goes on the other side only
    obtain ⟨rfl, rfl⟩ := alone
    rw [trimReversed, if_neg other, if_pos ⟨rfl, rfl⟩, ih, List.reverse_cons, List.reverse_cons,
      List.reverse_cons, List.append_assoc, names_append_slash_nil]
    exact (names_append_slash_dot rest.reverse).symm
  | case6 b c rest other proper => rw [trimReversed, if_neg other, if_neg proper]

theorem names_trimmed (p : FilePath) : names ⟨p.trimmed⟩ = p.names := by
  rw [trimmed, names_trimReversed, List.reverse_reverse]

theorem trimReversed_cases (bytes : List UInt8) :
    trimReversed bytes = [] ∨ trimReversed bytes = [dot] ∨
      (trimReversed bytes).takeWhile (· ≠ slash) ≠ [] ∧
        (trimReversed bytes).takeWhile (· ≠ slash) ≠ [dot] := by
  induction bytes using trimReversed.induct with
  | case1 => exact .inl rfl
  | case2 => exact .inl rfl
  | case3 b other =>
    rw [trimReversed, if_neg other]
    by_cases alone : b = dot
    · exact .inr (.inl (by rw [alone]))
    · simp [other, alone]
  | case4 c rest ih => rwa [trimReversed, if_pos rfl]
  | case5 b c rest other alone ih => rwa [trimReversed, if_neg other, if_pos alone]
  | case6 b c rest other proper =>
    rw [trimReversed, if_neg other, if_neg proper]
    refine .inr (.inr ?_)
    rw [List.takeWhile_cons_of_pos (by simpa using other)]
    refine ⟨List.cons_ne_nil _ _, fun whole => proper ?_⟩
    -- a dot is the whole name only if a slash stands before it
    obtain ⟨rfl, nothing⟩ := List.cons.inj whole
    refine ⟨rfl, Decidable.byContradiction fun goes_on => ?_⟩
    rw [List.takeWhile_cons_of_pos (by simpa using goes_on)] at nothing
    exact List.cons_ne_nil _ _ nothing

/-- What is left of a path ends in one of its names, unless nothing or a dot is left. -/
theorem trimmed_cases (p : FilePath) :
    p.trimmed = [] ∨ p.trimmed = [dot] ∨
      (splitLast p.trimmed).2 ≠ [] ∧ (splitLast p.trimmed).2 ≠ [dot] := by
  have reversed : p.trimmed.reverse = trimReversed p.bytes.reverse := List.reverse_reverse _
  rw [splitLast, reversed]
  simpa [trimmed] using trimReversed_cases p.bytes.reverse

/-! ### File names -/

/-- The file name of a path is the last of its names, unless that is `..`. -/
theorem fileName?_eq (p : FilePath) :
    p.fileName? = p.names.getLast?.filter (· ≠ [dot, dot]) := by
  rw [← names_trimmed]
  rcases p.trimmed_cases with empty | alone | ⟨not_empty, not_dot⟩
  · rw [fileName?, empty]
    rfl
  · rw [fileName?, alone]
    rfl
  · obtain ⟨outer, pieces_eq⟩ := exists_pieces_eq p.trimmed
    have last : (names ⟨p.trimmed⟩).getLast? = some (splitLast p.trimmed).2 := by
      rw [names, pieces_eq, List.filter_append,
        List.filter_cons_of_pos (by simp [not_empty, not_dot])]
      exact List.getLast?_concat
    rw [last, fileName?, Option.filter_some]
    simp [not_empty, not_dot]

/-- A path with a file name keeps it behind any other path. -/
theorem fileName?_join (relative : p.isAbsolute = false) (named : p.fileName?.isSome) :
    (base.join p).fileName? = p.fileName? := by
  rw [fileName?_eq] at named
  rw [fileName?_eq, fileName?_eq, names_join relative, List.getLast?_append]
  cases last : p.names.getLast? with
  | none =>
    rw [last] at named
    cases named
  | some name => rfl

theorem fileName?_resolve {file : String} (named : (ofText file).fileName?.isSome) :
    (base.resolve file).fileName? = (ofText file).fileName? := by
  rw [resolve]
  split
  · rfl
  · rename_i relative
    exact fileName?_join (Bool.eq_false_iff.2 relative) named

/-! ### Texts -/

theorem slash_not_mem_encodeChar {c : Char} (other : c ≠ '/') : slash ∉ Utf8.encodeChar c := by
  intro mem
  rcases Utf8.toNat_of_mem_encodeChar mem with same | marked
  · exact other (Char.toNat_inj.1 same.symm)
  · exact absurd marked (by decide)

/-- The pieces of a text are texts. -/
theorem exists_encode_of_mem_pieces {cs : List Char} {piece : List UInt8}
    (mem : piece ∈ pieces (Utf8.encode cs)) : ∃ name, piece = Utf8.encode name := by
  induction cs generalizing piece with
  | nil => exact ⟨[], List.mem_singleton.1 mem⟩
  | cons c cs ih =>
    rw [Utf8.encode, List.flatMap_cons, ← Utf8.encode] at mem
    by_cases separates : c = '/'
    · subst separates
      rcases List.mem_cons.1 (pieces_slash (Utf8.encode cs) ▸ mem) with rfl | mem
      · exact ⟨[], rfl⟩
      · exact ih mem
    · obtain ⟨first, others, eq⟩ := List.exists_cons_of_ne_nil (pieces_ne_nil (Utf8.encode cs))
      rw [pieces_append (slash_not_mem_encodeChar separates) eq, List.mem_cons] at mem
      rcases mem with rfl | mem
      · obtain ⟨name, rfl⟩ := ih (eq ▸ List.mem_cons_self)
        exact ⟨c :: name, rfl⟩
      · exact ih (eq ▸ List.mem_cons_of_mem first mem)

theorem exists_encode_of_mem_names {file : String} {name : List UInt8}
    (mem : name ∈ (ofText file).names) : ∃ cs, name = Utf8.encode cs :=
  exists_encode_of_mem_pieces (List.mem_filter.1 mem).1

/-! ### What is shown -/

/-- A file that has a name is shown under the last of its names wherever it is found, whatever the
bytes of the directory are. -/
theorem displayName_resolve (base : FilePath) (file : String)
    (named : (ofText file).fileName?.isSome) :
    (base.resolve file).displayName = (ofText file).displayName ∧
      ∃ name : String, (ofText file).names.getLast? = some (Utf8.encode name.toList) ∧
        (ofText file).displayName = name := by
  refine ⟨by rw [displayName, displayName, fileName?_resolve named], ?_⟩
  obtain ⟨name, found⟩ := Option.isSome_iff_exists.1 named
  have last : (ofText file).names.getLast? = some name :=
    (Option.filter_eq_some_iff.1 (fileName?_eq (ofText file) ▸ found)).1
  obtain ⟨cs, rfl⟩ := exists_encode_of_mem_names (List.mem_of_getLast? last)
  refine ⟨String.ofList cs, by rw [last, String.toList_ofList], ?_⟩
  rw [displayName, found, Option.bind_some, Utf8.decode?_encode]

/-- A directory that is no text, and a file with meaningless ends behind its name. -/
theorem displayName_resolve_snare :
    let base : FilePath := ⟨[0xFF, slash]⟩
    let file := "../kit//snäre.wav/./"
    (ofText file).fileName?.isSome ∧
      ((base.resolve file).displayName = (ofText file).displayName ∧
        ∃ name : String, (ofText file).names.getLast? = some (Utf8.encode name.toList) ∧
          (ofText file).displayName = name) ∧
      (ofText file).displayName = "snäre.wav" := by
  intro base file
  have named : (ofText file).fileName?.isSome := by decide
  exact ⟨named, displayName_resolve base file named, by decide⟩

/-- What names no file is shown under the name of the directory. -/
example : (resolve ⟨[97]⟩ "").displayName = "a" ∧
    (ofText "").displayName = "unreadable file name" := by decide

end SampleBank.FilePath
