import MediaPaths.Text.Basic

/-!
The lines of a text in closed form. They are the pieces between its newlines: each piece that a
newline ends gives a line without the carriage return at its end, and the piece behind the last
newline is a line as it is, unless it is empty (`Text.lines_eq`). Lines that are put together with
newlines come apart as they were (`Text.lines_intercalate`).
-/
namespace MediaPaths.Text

def withoutReturn (piece : List Char) : List Char :=
  if piece.getLast? = some '\r' then piece.dropLast else piece

def linesOfPieces : List (List Char) → List (List Char)
  | [] => []
  | [last] => if last = [] then [] else [last]
  | piece :: next :: rest => withoutReturn piece :: linesOfPieces (next :: rest)

theorem reverse_dropReturn (line : List Char) :
    (dropReturn line).reverse = withoutReturn line.reverse := by
  cases line with
  | nil => rfl
  | cons c line =>
    by_cases carriage : c = '\r' <;> simp [dropReturn, withoutReturn, carriage]

theorem withoutReturn_of_not_mem {piece : List Char} (plain : '\r' ∉ piece) :
    withoutReturn piece = piece := by
  have other : piece.getLast? ≠ some '\r' := fun last => plain (List.mem_of_getLast? last)
  rw [withoutReturn, if_neg other]

theorem linesOfPieces_cons (piece : List Char) {rest : List (List Char)} (more : rest ≠ []) :
    linesOfPieces (piece :: rest) = withoutReturn piece :: linesOfPieces rest := by
  obtain ⟨next, rest, rfl⟩ := List.exists_cons_of_ne_nil more
  rfl

theorem linesFrom_eq (s line : List Char) (whole : '\n' ∉ line) :
    linesFrom line s = linesOfPieces ((line.reverse ++ s).splitOn '\n') := by
  induction s generalizing line with
  | nil =>
    have one : line.reverse.splitOn '\n' = [line.reverse] :=
      List.splitOn_eq_singleton (by simpa using whole)
    simp [linesFrom, one, linesOfPieces]
  | cons c s ih =>
    by_cases newline : c = '\n'
    · subst newline
      have first : (line.reverse ++ '\n' :: s).splitOn '\n' = line.reverse :: s.splitOn '\n' :=
        List.splitOn_append_cons_self_of_not_mem (by simpa using whole) s
      have later := ih [] (by simp)
      rw [List.reverse_nil, List.nil_append] at later
      rw [linesFrom, if_pos rfl, later, first, linesOfPieces_cons _ (List.splitOn_ne_nil '\n' s),
        reverse_dropReturn]
    · have later := ih (c :: line) (by simp [whole, Ne.symm newline])
      simpa [linesFrom, newline] using later

theorem lines_eq (s : String) :
    lines s = (linesOfPieces (s.toList.splitOn '\n')).map String.ofList := by
  rw [lines, linesFrom_eq s.toList [] (by simp), List.reverse_nil, List.nil_append]

section Intercalate

variable {pieces : List (List Char)}

theorem linesOfPieces_eq_self (plain : ∀ p ∈ pieces, '\r' ∉ p) (filled : ∀ p ∈ pieces, p ≠ []) :
    linesOfPieces pieces = pieces := by
  induction pieces with
  | nil => rfl
  | cons piece rest ih =>
    obtain ⟨plain_piece, plain_rest⟩ := List.forall_mem_cons.mp plain
    obtain ⟨filled_piece, filled_rest⟩ := List.forall_mem_cons.mp filled
    cases rest with
    | nil => rw [linesOfPieces, if_neg filled_piece]
    | cons next rest =>
      rw [linesOfPieces_cons piece (by simp), withoutReturn_of_not_mem plain_piece,
        ih plain_rest filled_rest]

theorem linesOfPieces_concat_nil (plain : ∀ p ∈ pieces, '\r' ∉ p) :
    linesOfPieces (pieces ++ [[]]) = pieces := by
  induction pieces with
  | nil => rfl
  | cons piece rest ih =>
    obtain ⟨plain_piece, plain_rest⟩ := List.forall_mem_cons.mp plain
    rw [List.cons_append, linesOfPieces_cons piece (by simp), withoutReturn_of_not_mem plain_piece,
      ih plain_rest]

end Intercalate

/-- It does not matter whether a newline stands behind the last line. -/
theorem lines_intercalate {ls : List String} (some_line : ls ≠ [])
    (plain : ∀ l ∈ ls, '\n' ∉ l.toList ∧ '\r' ∉ l.toList) (filled : ∀ l ∈ ls, l ≠ "") :
    lines (String.intercalate "\n" ls) = ls ∧ lines (String.intercalate "\n" ls ++ "\n") = ls := by
  have split : (String.intercalate "\n" ls).toList.splitOn '\n' = ls.map String.toList := by
    rw [String.toList_intercalate]
    apply List.splitOn_intercalate
    · exact List.forall_mem_map.mpr fun l member => (plain l member).1
    · simpa using some_line
  have no_return : ∀ p ∈ ls.map String.toList, '\r' ∉ p :=
    List.forall_mem_map.mpr fun l member => (plain l member).2
  have no_empty : ∀ p ∈ ls.map String.toList, p ≠ [] :=
    List.forall_mem_map.mpr fun l member => by simpa using filled l member
  have back : (ls.map String.toList).map String.ofList = ls := by simp
  constructor
  · rw [lines_eq, split, linesOfPieces_eq_self no_return no_empty, back]
  · have ended : (String.intercalate "\n" ls ++ "\n").toList.splitOn '\n' =
        ls.map String.toList ++ [[]] := by
      rw [String.toList_append, ← split]
      exact List.splitOn_append_cons_self _ []
    rw [lines_eq, ended, linesOfPieces_concat_nil no_return, back]

end MediaPaths.Text
