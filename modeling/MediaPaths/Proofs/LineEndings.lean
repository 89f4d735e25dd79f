import MediaPaths.Proofs.LibraryTable
import MediaPaths.RuleFile

/-!
The two ways to end a line. With a carriage return written before every newline, each line comes out
whole: the carriage return that goes with the newline is the one that was written
(`Text.lines_withReturns`). So the lines stay what they were exactly when no newline had a carriage
return before it (`Text.lines_withReturns_eq_iff`), and libraries and rule files are read by lines.
-/
namespace MediaPaths

namespace Text

def returned (s : List Char) : List Char :=
  s.flatMap fun c => if c = '\n' then ['\r', '\n'] else [c]

def withReturns (text : String) : String := String.ofList (returned text.toList)

def wholePieces : List (List Char) → List (List Char)
  | [] => []
  | [last] => if last = [] then [] else [last]
  | piece :: next :: rest => piece :: wholePieces (next :: rest)

theorem wholePieces_cons (piece : List Char) {rest : List (List Char)} (more : rest ≠ []) :
    wholePieces (piece :: rest) = piece :: wholePieces rest := by
  obtain ⟨next, rest, rfl⟩ := List.exists_cons_of_ne_nil more
  rfl

theorem linesFrom_returned (s line : List Char) (whole : '\n' ∉ line) :
    linesFrom line (returned s) = wholePieces ((line.reverse ++ s).splitOn '\n') := by
  induction s generalizing line with
  | nil =>
    have one : line.reverse.splitOn '\n' = [line.reverse] :=
      List.splitOn_eq_singleton (by simpa using whole)
    simp [returned, linesFrom, one, wholePieces]
  | cons c s ih =>
    by_cases newline : c = '\n'
    · subst newline
      have first : (line.reverse ++ '\n' :: s).splitOn '\n' = line.reverse :: s.splitOn '\n' :=
        List.splitOn_append_cons_self_of_not_mem (by simpa using whole) s
      have later := ih [] (by simp)
      rw [List.reverse_nil, List.nil_append] at later
      have written : returned ('\n' :: s) = '\r' :: '\n' :: returned s := rfl
      rw [first, wholePieces_cons _ (List.splitOn_ne_nil '\n' s), ← later, written]
      rfl
    · have later := ih (c :: line) (by simp [whole, Ne.symm newline])
      have same : returned (c :: s) = c :: returned s := by simp [returned, newline]
      rw [same, linesFrom, if_neg newline, later]
      simp

theorem lines_withReturns (text : String) :
    lines (withReturns text) = (wholePieces (text.toList.splitOn '\n')).map String.ofList := by
  rw [lines, withReturns, String.toList_ofList, linesFrom_returned text.toList [] (by simp),
    List.reverse_nil, List.nil_append]

theorem withoutReturn_eq_self_iff (piece : List Char) :
    withoutReturn piece = piece ↔ piece.getLast? ≠ some '\r' := by
  by_cases carriage : piece.getLast? = some '\r'
  · have filled : piece ≠ [] := by
      rintro rfl
      cases carriage
    have shorter : piece.dropLast ≠ piece := by
      intro same
      have length := congrArg List.length same
      have positive := List.length_pos_iff.mpr filled
      rw [List.length_dropLast] at length
      omega
    simp [withoutReturn, carriage, shorter]
  · simp [withoutReturn, carriage]

/-- The last piece has no newline behind it and keeps its carriage return in any case. -/
theorem linesOfPieces_eq_wholePieces_iff (pieces : List (List Char)) :
    linesOfPieces pieces = wholePieces pieces ↔
      ∀ piece ∈ pieces.dropLast, piece.getLast? ≠ some '\r' := by
  induction pieces with
  | nil => simp [linesOfPieces, wholePieces]
  | cons piece rest ih =>
    cases rest with
    | nil => simp [linesOfPieces, wholePieces]
    | cons next rest =>
      rw [linesOfPieces, wholePieces, List.cons.injEq, withoutReturn_eq_self_iff, ih,
        List.dropLast_cons_cons, List.forall_mem_cons]

theorem lines_withReturns_eq_iff (text : String) : lines (withReturns text) = lines text ↔
    ∀ piece ∈ (text.toList.splitOn '\n').dropLast, piece.getLast? ≠ some '\r' := by
  rw [lines_withReturns, lines_eq, List.map_inj_right fun _ _ => String.ofList_injective, eq_comm,
    linesOfPieces_eq_wholePieces_iff]

theorem mem_intercalate {c : Char} {separator piece : List Char} {pieces : List (List Char)}
    (member : piece ∈ pieces) (inside : c ∈ piece) : c ∈ separator.intercalate pieces := by
  induction pieces with
  | nil => cases member
  | cons first rest ih =>
    cases rest with
    | nil =>
      obtain rfl := List.mem_singleton.mp member
      simpa using inside
    | cons next rest =>
      rw [List.intercalate_cons_cons, List.append_assoc, List.mem_append]
      rcases List.mem_cons.mp member with rfl | later
      · exact Or.inl inside
      · exact Or.inr (List.mem_append_right separator (ih later))

theorem lines_withReturns_of_plain {text : String} (plain : '\r' ∉ text.toList) :
    lines (withReturns text) = lines text := by
  rw [lines_withReturns_eq_iff]
  intro piece member last
  have inside : '\r' ∈ ['\n'].intercalate (text.toList.splitOn '\n') :=
    mem_intercalate (List.dropLast_subset _ member) (List.mem_of_getLast? last)
  rw [List.intercalate_splitOn] at inside
  exact plain inside

end Text

theorem Library.read_congr {text other : String} (same : Text.lines text = Text.lines other) :
    Library.read text = Library.read other := by
  have rows : rowsOfText text = rowsOfText other := by rw [rowsOfText, rowsOfText, same]
  rw [read, read, rows]

theorem Registry.load_congr {text other : String} (same : Text.lines text = Text.lines other)
    (reg : Registry) : reg.load text = reg.load other := by
  rw [load, load, same]

theorem line_endings_alike {text : String} (plain : '\r' ∉ text.toList) :
    Library.read (Text.withReturns text) = Library.read text ∧
    ∀ reg : Registry, reg.load (Text.withReturns text) = reg.load text := by
  have same := Text.lines_withReturns_of_plain plain
  exact ⟨Library.read_congr same, Registry.load_congr same⟩

namespace Sample

def singles : String := "n\ttitle\n\n01\tVenus\n02"

def shortcuts : String := "ar = Artists\nArtists = /${artist}\nar = Artists"

end Sample

theorem line_endings_alike_singles :
    '\r' ∉ Sample.singles.toList ∧ '\r' ∉ Sample.shortcuts.toList ∧
    Text.withReturns Sample.singles = "n\ttitle\r\n\r\n01\tVenus\r\n02" ∧
    Library.read (Text.withReturns Sample.singles) = .error (.raggedLine 4 2 1) ∧
    (Registry.empty.load (Text.withReturns Sample.shortcuts)).loaded = 2 ∧
    (Registry.empty.load (Text.withReturns Sample.shortcuts)).skipped =
      [(1, .undefinedTarget "ar" "Artists")] := by
  have singles_plain : '\r' ∉ Sample.singles.toList := by decide +kernel
  have shortcuts_plain : '\r' ∉ Sample.shortcuts.toList := by decide +kernel
  obtain ⟨singles, _⟩ := line_endings_alike singles_plain
  obtain ⟨_, shortcuts⟩ := line_endings_alike shortcuts_plain
  have rows : Library.rowsOfText Sample.singles =
      [("n\ttitle", 1), ("01\tVenus", 3), ("02", 4)] := by decide +kernel
  have ragged : Library.read Sample.singles = .error (.raggedLine 4 2 1) :=
    (Library.read_eq_error_iff rows (by decide) _).mpr
      ⟨"02", 4, by decide +kernel, by decide +kernel⟩
  refine ⟨singles_plain, shortcuts_plain, by decide +kernel, singles.trans ragged, ?_, ?_⟩
  · rw [shortcuts Registry.empty]
    decide +kernel
  · rw [shortcuts Registry.empty]
    decide +kernel

end MediaPaths
