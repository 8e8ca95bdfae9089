import SampleBank.Files

/-!
# Files that are written

A file that was written is what its path leads to afterwards (`Files.open_of_write_ok`). The names
that lead to its directory still do: only the place of the file itself has changed, and no directory
stood there.
-/

namespace SampleBank.Files

variable {fs fs' : Files} {place target : Place} {names outer : List FileName} {last : FileName}
  {node : FileNode}

theorem walk_append (names rest : List FileName) :
    fs.walk place (names ++ rest) =
      match fs.walk place names with
      | .error e => .error e
      | .ok place => fs.walk place rest := by
  induction names generalizing place with
  | nil => rfl
  | cons name names ih =>
    rw [List.cons_append, walk, walk]
    cases fs.enter place name with
    | error e => rfl
    | ok place => exact ih

/-! ### Putting -/

theorem node?_put_of_ne (h : place ≠ target) :
    (fs.put target node).node? place = fs.node? place := by
  have lookup_filter (nodes : List (Place × FileNode)) :
      (nodes.filter (·.1 ≠ target)).lookup place = nodes.lookup place := by
    induction nodes with
    | nil => rfl
    | cons entry nodes ih =>
      by_cases same : entry.1 = target
      · have other : (place == entry.1) = false := beq_eq_false_iff_ne.2 (same ▸ h)
        rw [List.filter_cons_of_neg (by simp [same]), ih, List.lookup_cons, other]
      · rw [List.filter_cons_of_pos (by simp [same]), List.lookup_cons, List.lookup_cons, ih]
  have other : (place == target) = false := beq_eq_false_iff_ne.2 h
  rw [node?, node?, put]
  simp only [List.lookup_cons, other, lookup_filter]

theorem node?_put_self (h : fs.node? target ≠ some .directory) :
    (fs.put target node).node? target = some node := by
  have inside : ¬ target.all (fun n => n = above || n = root) = true := by
    intro outside
    exact h (if_pos outside)
  rw [node?, if_neg inside, put, List.lookup_cons, beq_self_eq_true]

/-- Where something can be entered, a directory stands. -/
theorem node?_of_enter_ok {name : FileName} {inner : Place} (h : fs.enter place name = .ok inner) :
    fs.node? place = some .directory := by
  unfold enter at h
  cases stands : fs.node? place with
  | none => simp only [stands, reduceCtorEq] at h
  | some node =>
    cases node with
    | file bytes => simp only [stands, reduceCtorEq] at h
    | directory => rfl

/-- A way through directories does not lead through a place where none stood. -/
theorem walk_put (free : fs.node? target ≠ some .directory)
    (h : fs.walk place names = .ok outer) : (fs.put target node).walk place names = .ok outer := by
  induction names generalizing place with
  | nil => exact h
  | cons name names ih =>
    rw [walk] at h ⊢
    cases entered : fs.enter place name with
    | error e => simp only [entered, reduceCtorEq] at h
    | ok inner =>
      simp only [entered] at h
      have ne : place ≠ target := by
        rintro rfl
        exact free (node?_of_enter_ok entered)
      have entered' : (fs.put target node).enter place name = .ok inner := by
        unfold enter at entered ⊢
        rwa [node?_put_of_ne ne]
      rw [entered']
      exact ih h

/-! ### Writing -/

/-- The last name of a path that names no directory is what remains behind the names of the
directory. -/
theorem pieces_of_splitTarget {p : FilePath} (h : splitTarget p = (outer, last))
    (no_slash : last.getLast? ≠ some FilePath.slash) :
    FilePath.pieces p.bytes = outer ++ [last] ∧ last ≠ [] := by
  obtain ⟨reversed, names_eq⟩ :
      ∃ reversed : List FileName, FilePath.pieces p.bytes = reversed.reverse :=
    ⟨_, (List.reverse_reverse _).symm⟩
  rw [splitTarget, names_eq, List.reverse_reverse] at h
  cases reversed with
  | nil =>
    cases h
    exact absurd rfl no_slash
  | cons name names =>
    by_cases empty : name = []
    · -- the name has a slash behind it, or there is none
      simp only [List.takeWhile_cons, empty, decide_true, if_true, reduceCtorEq, if_false] at h
      split at h
      · cases h
        exact absurd rfl no_slash
      · cases h
        exact absurd List.getLast?_concat no_slash
    · simp only [List.takeWhile_cons, empty, decide_false, Bool.false_eq_true, if_false,
        List.length_nil, List.drop_zero, if_true] at h
      cases h
      exact ⟨by rw [names_eq, List.reverse_cons], empty⟩

/-- What a successful call has found and done. -/
theorem of_write_ok {p : FilePath} {bytes : List UInt8} (h : fs.write p bytes = .ok fs') :
    ∃ outer last place, refusal? p = none ∧ FilePath.pieces p.bytes = outer ++ [last] ∧
      fs.walk (start p) outer = .ok place ∧ fs.node? place = some .directory ∧
      (last ≠ [] ∧ last ≠ [FilePath.dot] ∧ last ≠ above ∧ last.length ≤ maxName) ∧
      fs.node? (last :: place) ≠ some .directory ∧
      fs' = fs.put (last :: place) (.file bytes) := by
  obtain ⟨outer, last, split_eq⟩ : ∃ outer last, splitTarget p = (outer, last) := ⟨_, _, rfl⟩
  unfold write at h
  cases refused : refusal? p with
  | some e => simp only [refused, reduceCtorEq] at h
  | none =>
    simp only [refused, split_eq] at h
    cases walked : fs.walk (start p) outer with
    | error e => simp only [walked, reduceCtorEq] at h
    | ok place =>
      simp only [walked] at h
      cases entered : fs.enter place [FilePath.dot] with
      | error e => simp only [entered, reduceCtorEq] at h
      | ok inner =>
        have stands := node?_of_enter_ok entered
        have inner_eq : inner = place := by
          unfold enter at entered
          simp only [stands, or_true, if_true, Except.ok.injEq] at entered
          exact entered.symm
        simp only [entered, inner_eq] at h
        split at h
        · cases h
        rename_i proper
        split at h
        · cases h
        rename_i short
        split at h
        · cases h
        rename_i free
        obtain ⟨no_slash, not_dot, not_above⟩ := not_or.1 proper |>.imp id not_or.1
        obtain ⟨pieces_eq, not_empty⟩ := pieces_of_splitTarget split_eq no_slash
        cases h
        exact ⟨outer, last, place, rfl, pieces_eq, walked, stands,
          ⟨not_empty, not_dot, not_above, Nat.le_of_not_lt short⟩, free, rfl⟩

/-- What was written is found again. -/
theorem open_of_write_ok {p : FilePath} {bytes : List UInt8} (h : fs.write p bytes = .ok fs') :
    fs'.open p = .ok (.file bytes) := by
  obtain ⟨outer, last, place, refused, pieces_eq, walked, stands, proper, free, rfl⟩ :=
    of_write_ok h
  have stands' : (fs.put (last :: place) (.file bytes)).node? place = some .directory := by
    rw [node?_put_of_ne (List.cons_ne_self last place).symm, stands]
  have entered : (fs.put (last :: place) (.file bytes)).enter place last = .ok (last :: place) := by
    unfold enter
    simp only [stands', proper.1, proper.2.1, proper.2.2.1, or_self, if_false,
      Nat.not_lt.2 proper.2.2.2]
  unfold «open»
  simp only [refused, pieces_eq, walk_append, walk_put free walked, walk, entered,
    node?_put_self free]

/-- A path at which a file can be made or replaced. -/
def Writable (fs : Files) (p : FilePath) : Prop := ∃ bytes fs', fs.write p bytes = .ok fs'

/-- What a file is to hold does not matter to whether it can be written. -/
theorem Writable.write {p : FilePath} (h : fs.Writable p) (bytes : List UInt8) :
    ∃ fs', fs.write p bytes = .ok fs' := by
  obtain ⟨bytes', fs', h⟩ := h
  unfold Files.write at h ⊢
  cases refused : refusal? p with
  | some e => simp only [refused, reduceCtorEq] at h
  | none =>
    simp only [refused] at h ⊢
    generalize fs.walk (start p) (splitTarget p).1 = walked at h ⊢
    cases walked with
    | error e => cases h
    | ok place =>
      dsimp only at h ⊢
      generalize fs.enter place [FilePath.dot] = entered at h ⊢
      cases entered with
      | error e => cases h
      | ok inner =>
        dsimp only at h ⊢
        split at h
        · cases h
        rename_i proper
        rw [if_neg proper]
        split at h
        · cases h
        rename_i short
        rw [if_neg short]
        split at h
        · cases h
        · exact ⟨_, rfl⟩

end SampleBank.Files
