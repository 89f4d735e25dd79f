import Mathlib.Algebra.Group.Nat.Defs
import MediaPaths.Proofs.Merge
import MediaPaths.Proofs.TextLines

/-!
What a library's text stands for. The lines that are not blank are the header and the entries, in
their order, and the number of a line counts all lines. A line is given the next number when it has
as many cells as the header and a number is left in 32 bits; the first one for which this fails ends
the reading (`Library.readEntries_eq`), so that no number is ever too large
(`Library.id_of_mem_read`) and the line where they run out is known
(`Library.read_eq_tooManyEntries_iff`). Otherwise each line gives one entry, numbered from one, with
the cells under the names of their columns. A table that is written out is read back.
-/
namespace MediaPaths

/-- The fields are the names of the columns, each with the cell of the last column of that name. -/
def Table.Holds (fields : Row) (columns cells : List String) : Prop :=
  ∀ name value, fields.get? name = some value ↔
    ∃ front back, columns = front ++ name :: back ∧ name ∉ back ∧ cells[front.length]? = some value

namespace Table

theorem get?_insertAll_zip (t : Row) {columns cells : List String}
    (even : cells.length = columns.length) (name value : String) :
    (t.insertAll (columns.zip cells)).get? name = some value ↔
      (∃ front back, columns = front ++ name :: back ∧ name ∉ back ∧
        cells[front.length]? = some value) ∨
      name ∉ columns ∧ t.get? name = some value := by
  induction columns generalizing t cells with
  | nil => simp [insertAll]
  | cons column columns ih =>
    obtain ⟨cell, cells, rfl⟩ := List.exists_cons_of_length_eq_add_one even
    have even' : cells.length = columns.length := by simpa using even
    rw [List.zip_cons_cons, insertAll, ih (t.insert column cell) even', get?_insert]
    -- The first column decides where its name does not come again.
    constructor
    · rintro (⟨front, back, rfl, last, found⟩ | ⟨absent, here⟩)
      · exact Or.inl ⟨column :: front, back, rfl, last, by simpa using found⟩
      · by_cases same : name = column
        · subst same
          rw [if_pos rfl] at here
          exact Or.inl ⟨[], columns, rfl, absent, by simpa using here⟩
        · rw [if_neg same] at here
          exact Or.inr ⟨by simp [same, absent], here⟩
    · rintro (⟨front, back, split, last, found⟩ | ⟨absent, before⟩)
      · cases front with
        | nil =>
          obtain ⟨rfl, rfl⟩ := List.cons.inj split
          exact Or.inr ⟨last, by simpa using found⟩
        | cons first front =>
          obtain ⟨rfl, rfl⟩ := List.cons.inj split
          exact Or.inl ⟨front, back, rfl, last, by simpa using found⟩
      · obtain ⟨other, later⟩ := List.ne_and_not_mem_of_not_mem_cons absent
        exact Or.inr ⟨later, by rw [if_neg other, before]⟩

theorem holds_zip {columns cells : List String} (even : cells.length = columns.length) :
    (ofList (columns.zip cells)).Holds columns cells := by
  intro name value
  rw [ofList, get?_insertAll_zip empty even]
  simp

theorem Holds.keys {fields : Row} {columns cells : List String}
    (holds : fields.Holds columns cells) (even : cells.length = columns.length) (name : String) :
    name ∈ fields.keys ↔ name ∈ columns := by
  rw [mem_keys_iff]
  constructor
  · rintro ⟨value, found⟩
    obtain ⟨front, back, rfl, _⟩ := (holds name value).mp found
    simp
  · intro member
    obtain ⟨back, front, split, last⟩ := List.eq_append_cons_of_mem (List.mem_reverse.mpr member)
    have whole : columns = front.reverse ++ name :: back.reverse := by
      rw [← List.reverse_reverse columns, split]
      simp
    have inside : front.reverse.length < cells.length := by
      rw [even, whole]
      simp
    exact ⟨cells[front.reverse.length], (holds name _).mpr
      ⟨front.reverse, back.reverse, whole, by simpa using last, List.getElem?_eq_getElem inside⟩⟩

theorem Holds.map_get? {fields : Row} {columns cells : List String}
    (holds : fields.Holds columns cells) (even : cells.length = columns.length)
    (once : columns.Nodup) : columns.map fields.get? = cells.map some := by
  apply List.ext_getElem
  · simp [even]
  · intro j inside inside'
    rw [List.length_map] at inside inside'
    have back := List.drop_eq_getElem_cons inside
    have last := once.sublist (List.drop_sublist j columns)
    rw [back, List.nodup_cons] at last
    have place : (columns.take j).length = j := List.length_take_of_le (by omega)
    have here : cells[(columns.take j).length]? = some cells[j] := by
      rw [place, List.getElem?_eq_getElem inside']
    have found := (holds columns[j] cells[j]).mpr ⟨columns.take j, columns.drop (j + 1),
      by rw [← back, List.take_append_drop], last.1, here⟩
    rw [List.getElem_map, List.getElem_map, found]

end Table

namespace Library

section Rows

variable (text : String)

theorem mem_rowsOfText_iff (line : String) (n : Nat) : (line, n) ∈ rowsOfText text ↔
    1 ≤ n ∧ (Text.lines text)[n - 1]? = some line ∧ Text.trim line ≠ "" := by
  rw [rowsOfText, List.mem_filter, List.mk_mem_zipIdx_iff_le_and_getElem?_sub, and_assoc,
    decide_eq_true_eq]

theorem rowsOfText_increasing : ((rowsOfText text).map Prod.snd).Pairwise (· < ·) := by
  have all : (((Text.lines text).zipIdx 1).map Prod.snd).Pairwise (· < ·) := by
    rw [List.zipIdx_map_snd]
    exact List.pairwise_lt_range'
  exact all.sublist (List.filter_sublist.map Prod.snd)

theorem length_rowsOfText_le : (rowsOfText text).length ≤ (Text.lines text).length := by
  have fewer := List.length_filter_le (fun line => Text.trim line.1 ≠ "")
    ((Text.lines text).zipIdx 1)
  rwa [List.length_zipIdx] at fewer

end Rows

theorem length_le_maxId {row : String × Nat} {data : List (String × Nat)} {text : String}
    (few : (Text.lines text).length < 2 ^ 32) (rows : rowsOfText text = row :: data) :
    data.length ≤ maxId := by
  have fewer := length_rowsOfText_le text
  have range : maxId = 2 ^ 32 - 1 := rfl
  rw [rows, List.length_cons] at fewer
  omega

theorem nextId_of_le {count : Nat} (room : count + 1 ≤ maxId) (line : Nat) :
    nextId count line = .ok (count + 1) := if_pos room

theorem nextId_of_lt {count : Nat} (full : maxId < count + 1) (line : Nat) :
    nextId count line = .error (.tooManyEntries line) := if_neg (Nat.not_le_of_lt full)

example : nextId 4294967294 7 = .ok 4294967295 ∧
    nextId 4294967295 7 = .error (.tooManyEntries 7) := ⟨rfl, rfl⟩

section Entries

variable {columns : List String} (count : Nat) {rows : List (String × Nat)}

def ragged (columns : List String) (line : String × Nat) : Bool :=
  (cells line.1).length ≠ columns.length

/-- What keeps a line from being the entry after `count` others: its cells are counted before it is
given a number. -/
def obstacle (columns : List String) (line : String × Nat) (count : Nat) : Option Fault :=
  if ragged columns line then some (.raggedLine line.2 columns.length (cells line.1).length)
  else if count + 1 ≤ maxId then none
  else some (.tooManyEntries line.2)

theorem obstacle_eq_none_iff {line : String × Nat} {count : Nat} :
    obstacle columns line count = none ↔
      (cells line.1).length = columns.length ∧ count + 1 ≤ maxId := by
  by_cases even : (cells line.1).length = columns.length <;> simp [obstacle, ragged, even]

def entryOf (columns : List String) (line : String) (id : Nat) : Entry :=
  ⟨id, Table.ofList (columns.zip (cells line))⟩

def entriesOf (columns : List String) (id : Nat) (rows : List (String × Nat)) : List Entry :=
  (rows.zipIdx id).map fun p => entryOf columns p.1.1 p.2

theorem readEntries_cons (row : String × Nat) (rest : List (String × Nat)) :
    readEntries columns count (row :: rest) =
      match obstacle columns row count with
      | some fault => .error fault
      | none => (readEntries columns (count + 1) rest).map
          (entryOf columns row.1 (count + 1) :: ·) := by
  by_cases even : (cells row.1).length = columns.length
  · have passes : ragged columns row = false := by simp [ragged, even]
    rw [readEntries, if_pos even, obstacle, if_neg (by simp [passes])]
    rcases Nat.lt_or_ge maxId (count + 1) with full | room
    · rw [nextId_of_lt full, if_neg (Nat.not_le_of_lt full)]
      rfl
    · rw [nextId_of_le room, if_pos room]
      cases readEntries columns (count + 1) rest <;> rfl
  · have stops : ragged columns row = true := by simp [ragged, even]
    rw [readEntries, if_neg even, obstacle, if_pos stops]

theorem readEntries_eq : readEntries columns count rows =
    match (rows.zipIdx count).findSome? fun p => obstacle columns p.1 p.2 with
    | some fault => .error fault
    | none => .ok (entriesOf columns (count + 1) rows) := by
  induction rows generalizing count with
  | nil => rfl
  | cons row rest ih =>
    rw [readEntries_cons, List.zipIdx_cons, List.findSome?_cons, ih]
    cases obstacle columns row count with
    | some fault => rfl
    | none =>
      dsimp only
      cases (rest.zipIdx (count + 1)).findSome? fun p => obstacle columns p.1 p.2 with
      | some fault => rfl
      | none => rfl

theorem findSome?_obstacle (few : count + rows.length ≤ maxId) :
    ((rows.zipIdx count).findSome? fun p => obstacle columns p.1 p.2) =
      (rows.find? (ragged columns)).map fun line =>
        .raggedLine line.2 columns.length (cells line.1).length := by
  induction rows generalizing count with
  | nil => rfl
  | cons row rest ih =>
    rw [List.length_cons] at few
    have room : count + 1 ≤ maxId := by omega
    have later := ih (count + 1) (by omega)
    rw [List.zipIdx_cons, List.findSome?_cons, later, obstacle, if_pos room]
    by_cases stops : ragged columns row = true
    · rw [if_pos stops, List.find?_cons_of_pos stops]
      rfl
    · rw [if_neg stops, List.find?_cons_of_neg stops]

theorem readEntries_cons_eq_ok {row : String × Nat} {rest : List (String × Nat)}
    {entries : List Entry} (read : readEntries columns count (row :: rest) = .ok entries) :
    count + 1 ≤ maxId ∧ ∃ others, readEntries columns (count + 1) rest = .ok others ∧
      entries = entryOf columns row.1 (count + 1) :: others := by
  rw [readEntries_cons] at read
  cases free : obstacle columns row count with
  | some fault =>
    rw [free] at read
    cases read
  | none =>
    rw [free] at read
    cases later : readEntries columns (count + 1) rest with
    | error fault =>
      rw [later] at read
      cases read
    | ok others =>
      rw [later] at read
      exact ⟨(obstacle_eq_none_iff.mp free).2, others, rfl, (Except.ok.inj read).symm⟩

/-- Every number fits in 32 bits, however many lines there are. -/
theorem id_of_mem_readEntries {entries : List Entry}
    (read : readEntries columns count rows = .ok entries) {e : Entry} (member : e ∈ entries) :
    count < e.id ∧ e.id ≤ maxId := by
  induction rows generalizing count entries with
  | nil =>
    cases read
    cases member
  | cons row rest ih =>
    obtain ⟨room, others, later, rfl⟩ := readEntries_cons_eq_ok count read
    rcases List.mem_cons.mp member with rfl | behind
    · exact ⟨Nat.lt_succ_self count, room⟩
    · have bounds := ih (count + 1) later behind
      exact ⟨Nat.lt_of_succ_lt bounds.1, bounds.2⟩

/-- The numbers run out at the line after as many entries as there are numbers, and only if no line
up to there, itself included, has a wrong number of cells. -/
theorem readEntries_eq_tooManyEntries_iff {count : Nat} (start : count ≤ maxId) (n : Nat) :
    readEntries columns count rows = .error (.tooManyEntries n) ↔
      ∃ line, rows[maxId - count]? = some (line, n) ∧
        ∀ row ∈ rows.take (maxId - count + 1), (cells row.1).length = columns.length := by
  induction rows generalizing count with
  | nil => simp [readEntries]
  | cons row rest ih =>
    rw [readEntries_cons]
    by_cases even : (cells row.1).length = columns.length
    · rcases Nat.lt_or_eq_of_le start with room | rfl
      · have free : obstacle columns row count = none := obstacle_eq_none_iff.mpr ⟨even, room⟩
        have less : maxId - count = maxId - (count + 1) + 1 := by omega
        rw [free, less, List.getElem?_cons_succ, List.take_succ_cons, List.forall_mem_cons]
        simp only [even, true_and]
        rw [← ih room]
        cases readEntries columns (count + 1) rest <;> simp [Except.map]
      · -- No number is left for this line, and its cells were in order.
        have full : obstacle columns row maxId = some (.tooManyEntries row.2) := by
          simp [obstacle, ragged, even]
        obtain ⟨line, number⟩ := row
        rw [full, Nat.sub_self]
        simp [even, eq_comm]
    · have stops : obstacle columns row count =
          some (.raggedLine row.2 columns.length (cells row.1).length) := by
        simp [obstacle, ragged, even]
      rw [stops]
      simp [even]

theorem readEntries_of_few (few : count + rows.length ≤ maxId) :
    readEntries columns count rows =
      match rows.find? (ragged columns) with
      | some line => .error (.raggedLine line.2 columns.length (cells line.1).length)
      | none => .ok (entriesOf columns (count + 1) rows) := by
  rw [readEntries_eq, findSome?_obstacle count few]
  cases rows.find? (ragged columns) <;> rfl

theorem even_of_find?_ragged (none_ragged : rows.find? (ragged columns) = none) :
    ∀ row ∈ rows, (cells row.1).length = columns.length := by
  intro row member
  have passes := List.find?_eq_none.mp none_ragged row member
  simpa [ragged] using passes

variable (id : Nat)

theorem keys_of_mem_entriesOf (even : ∀ row ∈ rows, (cells row.1).length = columns.length)
    {e : Entry} (member : e ∈ entriesOf columns id rows) (name : String) :
    name ∈ e.fields.keys ↔ name ∈ columns := by
  obtain ⟨p, inside, rfl⟩ := List.mem_map.mp member
  have whole := even p.1 (List.fst_mem_of_mem_zipIdx inside)
  exact (Table.holds_zip whole).keys whole name

theorem values_entriesOf (once : columns.Nodup)
    (even : ∀ row ∈ rows, (cells row.1).length = columns.length) :
    (entriesOf columns id rows).map (fun e => columns.map e.fields.get?) =
      rows.map fun row => (cells row.1).map some := by
  have each : ∀ p ∈ rows.zipIdx id, columns.map (entryOf columns p.1.1 p.2).fields.get? =
      (cells p.1.1).map some := by
    intro p inside
    have whole := even p.1 (List.fst_mem_of_mem_zipIdx inside)
    exact (Table.holds_zip whole).map_get? whole once
  calc (entriesOf columns id rows).map (fun e => columns.map e.fields.get?)
    _ = (rows.zipIdx id).map fun p => columns.map (entryOf columns p.1.1 p.2).fields.get? :=
      List.map_map
    _ = (rows.zipIdx id).map fun p => (cells p.1.1).map some := List.map_congr_left each
    _ = ((rows.zipIdx id).map Prod.fst).map fun row => (cells row.1).map some := by
      rw [List.map_map]
      rfl
    _ = rows.map fun row => (cells row.1).map some := by rw [List.zipIdx_map_fst]

theorem ids_entriesOf : (entriesOf columns id rows).map Entry.id = List.range' id rows.length := by
  rw [entriesOf, List.map_map, ← List.zipIdx_map_snd]
  rfl

theorem getElem?_entriesOf {i n : Nat} {line : String} (here : rows[i]? = some (line, n)) :
    (entriesOf columns id rows)[i]? = some (entryOf columns line (id + i)) := by
  rw [entriesOf, List.getElem?_map, List.getElem?_zipIdx, here]
  rfl

end Entries

section Read

variable {text header : String} {h : Nat} {data : List (String × Nat)}

theorem id_of_mem_read {lib : Library} (made : read text = .ok lib) {e : Entry}
    (member : e ∈ lib.entries) : 1 ≤ e.id ∧ e.id ≤ maxId := by
  unfold read at made
  split at made
  · cases made
    cases member
  · split at made
    · rename_i entries read
      cases made
      exact id_of_mem_readEntries 0 read member
    · cases made

theorem read_eq_tooManyEntries_iff (rows : rowsOfText text = (header, h) :: data) (n : Nat) :
    read text = .error (.tooManyEntries n) ↔
      ∃ line, data[maxId]? = some (line, n) ∧
        ∀ row ∈ data.take (maxId + 1), (cells row.1).length = (columnsOf header).length := by
  have entries : readEntries (columnsOf header) 0 data = .error (.tooManyEntries n) ↔ _ :=
    readEntries_eq_tooManyEntries_iff (Nat.zero_le maxId) n
  rw [Nat.sub_zero] at entries
  rw [← entries, read, rows]
  dsimp only
  cases readEntries (columnsOf header) 0 data <;> simp

theorem read_of_few (rows : rowsOfText text = (header, h) :: data) (few : data.length ≤ maxId) :
    read text =
      match data.find? (ragged (columnsOf header)) with
      | some line => .error (.raggedLine line.2 (columnsOf header).length (cells line.1).length)
      | none => .ok ⟨entriesOf (columnsOf header) 1 data⟩ := by
  rw [read, rows]
  dsimp only
  rw [readEntries_of_few 0 (by omega)]
  cases data.find? (ragged (columnsOf header)) <;> rfl

theorem read_eq_error_iff (rows : rowsOfText text = (header, h) :: data)
    (few : data.length ≤ maxId) (fault : Fault) :
    read text = .error fault ↔
      ∃ line n, data.find? (ragged (columnsOf header)) = some (line, n) ∧
        fault = .raggedLine n (columnsOf header).length (cells line).length := by
  rw [read_of_few rows few]
  cases data.find? (ragged (columnsOf header)) with
  | none => simp
  | some row =>
    constructor
    · intro failed
      exact ⟨row.1, row.2, rfl, (Except.error.inj failed).symm⟩
    · rintro ⟨_, _, found, rfl⟩
      cases found
      rfl

theorem read_of_even (rows : rowsOfText text = (header, h) :: data) (few : data.length ≤ maxId)
    (even : ∀ row ∈ data, (cells row.1).length = (columnsOf header).length) :
    read text = .ok ⟨entriesOf (columnsOf header) 1 data⟩ := by
  have none_ragged : data.find? (ragged (columnsOf header)) = none :=
    List.find?_eq_none.mpr fun row member => by simp [ragged, even row member]
  rw [read_of_few rows few, none_ragged]

end Read

end Library

def tabbed (cells : List String) : String := String.intercalate "\t" cells

/-- A table that can be written out line by line: the names are trimmed and each is used once, there
is one cell for each name, and neither a tab nor the end of a line within one, nor a blank line. -/
structure PlainTable where
  columns : List String
  rows : List (List String)
  once : columns.Nodup
  trimmed : ∀ name ∈ columns, Text.trim name = name
  even : ∀ row ∈ rows, row.length = columns.length
  plain : ∀ row ∈ columns :: rows, ∀ cell ∈ row,
    '\t' ∉ cell.toList ∧ '\n' ∉ cell.toList ∧ '\r' ∉ cell.toList
  filled : ∀ row ∈ columns :: rows, Text.trim (tabbed row) ≠ ""

theorem not_mem_tabbed {mark : Char} {cells : List String} (other : mark ≠ '\t')
    (plain : ∀ cell ∈ cells, mark ∉ cell.toList) : mark ∉ (tabbed cells).toList := by
  induction cells with
  | nil => simp [tabbed]
  | cons cell rest ih =>
    obtain ⟨first, others⟩ := List.forall_mem_cons.mp plain
    cases rest with
    | nil => simpa [tabbed] using first
    | cons next rest =>
      have split : tabbed (cell :: next :: rest) = cell ++ "\t" ++ tabbed (next :: rest) :=
        String.intercalate_cons_of_ne_nil (by simp)
      have tab : "\t".toList = ['\t'] := rfl
      simp only [split, String.toList_append, tab, List.mem_append, List.mem_singleton, first,
        other, ih others, or_self, not_false_eq_true]

namespace PlainTable

variable (t : PlainTable)

def lines : List String := (t.columns :: t.rows).map tabbed

def text : String := String.intercalate "\n" t.lines

theorem cells_tabbed {row : List String} (member : row ∈ t.columns :: t.rows) :
    cells (tabbed row) = row := by
  have some_cell : row ≠ [] := by
    rintro rfl
    exact t.filled [] member rfl
  have split : (tabbed row).toList.splitOn '\t' = row.map String.toList := by
    rw [tabbed, String.toList_intercalate]
    apply List.splitOn_intercalate
    · exact List.forall_mem_map.mpr fun cell inside => (t.plain row member cell inside).1
    · simpa using some_cell
  rw [cells, split]
  simp

theorem lines_text : Text.lines t.text = t.lines ∧ Text.lines (t.text ++ "\n") = t.lines := by
  apply Text.lines_intercalate
  · simp [lines]
  · refine List.forall_mem_map.mpr fun row member => ?_
    have plain := t.plain row member
    exact ⟨not_mem_tabbed (by decide) fun cell inside => (plain cell inside).2.1,
      not_mem_tabbed (by decide) fun cell inside => (plain cell inside).2.2⟩
  · refine List.forall_mem_map.mpr fun row member empty => t.filled row member ?_
    rw [empty]
    rfl

theorem rowsOfText_eq {text : String} (written : Text.lines text = t.lines) :
    Library.rowsOfText text = (tabbed t.columns, 1) :: (t.rows.map tabbed).zipIdx 2 := by
  have filled : ∀ line ∈ t.lines.zipIdx 1, decide (Text.trim line.1 ≠ "") = true := by
    intro line member
    obtain ⟨row, inside, same⟩ := List.mem_map.mp (List.fst_mem_of_mem_zipIdx member)
    rw [← same, decide_eq_true_eq]
    exact t.filled row inside
  rw [Library.rowsOfText, written, List.filter_eq_self.mpr filled]
  rfl

theorem columnsOf_tabbed : Library.columnsOf (tabbed t.columns) = t.columns := by
  rw [Library.columnsOf, t.cells_tabbed List.mem_cons_self, List.map_congr_left t.trimmed,
    List.map_id']

theorem read_written {text : String} (few : (Text.lines text).length < 2 ^ 32)
    (written : Text.lines text = t.lines) :
    ∃ lib, Library.read text = .ok lib ∧
      lib.entries.map Entry.id = List.range' 1 t.rows.length ∧
      lib.entries.map (fun e => t.columns.map e.fields.get?) = t.rows.map (·.map some) ∧
      ∀ e ∈ lib.entries, ∀ name, name ∈ e.fields.keys ↔ name ∈ t.columns := by
  have rows := t.rowsOfText_eq written
  have back : ∀ row ∈ t.rows, cells (tabbed row) = row := fun row member =>
    t.cells_tabbed (List.mem_cons_of_mem _ member)
  have even : ∀ line ∈ (t.rows.map tabbed).zipIdx 2, (cells line.1).length = t.columns.length := by
    intro line member
    obtain ⟨row, inside, same⟩ := List.mem_map.mp (List.fst_mem_of_mem_zipIdx member)
    rw [← same, back row inside]
    exact t.even row inside
  have read := Library.read_of_even rows (Library.length_le_maxId few rows)
    (by rw [t.columnsOf_tabbed]; exact even)
  rw [t.columnsOf_tabbed] at read
  refine ⟨_, read, ?_, ?_, fun e member => Library.keys_of_mem_entriesOf 1 even member⟩
  · rw [Library.ids_entriesOf, List.length_zipIdx, List.length_map]
  · rw [Library.values_entriesOf 1 t.once even]
    calc ((t.rows.map tabbed).zipIdx 2).map (fun line => (cells line.1).map some)
      _ = (((t.rows.map tabbed).zipIdx 2).map Prod.fst).map fun line => (cells line).map some := by
        rw [List.map_map]
        rfl
      _ = t.rows.map fun row => (cells (tabbed row)).map some := by
        rw [List.zipIdx_map_fst, List.map_map]
        rfl
      _ = t.rows.map (·.map some) :=
        List.map_congr_left fun row member => by rw [back row member]

end PlainTable

theorem library_reads_table {text : String} (few : (Text.lines text).length < 2 ^ 32) :
    let rows := Library.rowsOfText text
    Text.lines text =
      (Text.linesOfPieces (text.toList.splitOn '\n')).map String.ofList ∧
    (∀ line n, (line, n) ∈ rows ↔ 1 ≤ n ∧ (Text.lines text)[n - 1]? = some line ∧
      Text.trim line ≠ "") ∧
    (rows.map Prod.snd).Pairwise (· < ·) ∧
    (rows = [] → Library.read text = .ok Library.empty) ∧
    (∀ header h data, rows = (header, h) :: data →
      let columns := (cells header).map Text.trim
      (∀ fault, Library.read text = .error fault ↔
        ∃ line n, data.find? (Library.ragged columns) = some (line, n) ∧
          fault = .raggedLine n columns.length (cells line).length) ∧
      (data.find? (Library.ragged columns) = none →
        ∃ lib, Library.read text = .ok lib ∧ lib.entries.length = data.length ∧
          ∀ i line n, data[i]? = some (line, n) → ∃ e, lib.entries[i]? = some e ∧
            e.id = i + 1 ∧ e.id < 2 ^ 32 ∧ e.fields.Holds columns (cells line) ∧
            ∀ name, name ∈ e.fields.keys ↔ name ∈ columns)) ∧
    ∀ t : PlainTable, (text = t.text ∨ text = t.text ++ "\n") →
      ∃ lib, Library.read text = .ok lib ∧
        lib.entries.map Entry.id = List.range' 1 t.rows.length ∧
        lib.entries.map (fun e => t.columns.map e.fields.get?) = t.rows.map (·.map some) ∧
        ∀ e ∈ lib.entries, ∀ name, name ∈ e.fields.keys ↔ name ∈ t.columns := by
  intro rows
  refine ⟨Text.lines_eq text, Library.mem_rowsOfText_iff text, Library.rowsOfText_increasing text,
    ?_, ?_, ?_⟩
  · intro nothing
    rw [Library.read]
    simp only [rows] at nothing
    rw [nothing]
  · intro header h data split columns
    have room := Library.length_le_maxId few split
    refine ⟨Library.read_eq_error_iff split room, ?_⟩
    intro none_ragged
    have even := Library.even_of_find?_ragged none_ragged
    have made := Library.read_of_even split room even
    refine ⟨_, made, by simp [Library.entriesOf], ?_⟩
    intro i line n here
    have whole := even _ (List.mem_of_getElem? here)
    have holds := Table.holds_zip whole
    have found : (Library.entriesOf columns 1 data)[i]? = _ := Library.getElem?_entriesOf 1 here
    have bound := (Library.id_of_mem_read made (List.mem_of_getElem? found)).2
    have inside := Nat.lt_of_le_of_lt bound (by decide : maxId < 2 ^ 32)
    exact ⟨_, found, Nat.add_comm 1 i, inside, holds, holds.keys whole⟩
  · intro t written
    apply t.read_written few
    rcases written with rfl | rfl
    · exact t.lines_text.1
    · exact t.lines_text.2

namespace Sample

def tracks : String := "\n n\ttitle\tn\r\n01\tVenus \t1\r\n \t\n\n02\t\tx"

def pressing : PlainTable where
  columns := ["artist", "title"]
  rows := [["Air", "Venus"], ["", "Run "]]
  once := by decide
  trimmed := by decide +kernel
  even := by decide
  plain := by decide +kernel
  filled := by decide +kernel

end Sample

theorem library_reads_table_tracks :
    Library.rowsOfText Sample.tracks =
      [(" n\ttitle\tn", 2), ("01\tVenus \t1", 3), ("02\t\tx", 6)] ∧
    (∃ lib, Library.read Sample.tracks = .ok lib ∧ lib.entries.length = 2 ∧
      ∃ e, lib.entries[1]? = some e ∧ e.id = 2 ∧ e.fields.get? "n" = some "x" ∧
        e.fields.get? "title" = some "") ∧
    Library.read (Sample.tracks ++ "\n\n03\t\r\n") = .error (.raggedLine 8 3 2) ∧
    Sample.pressing.text = "artist\ttitle\nAir\tVenus\n\tRun " ∧
    ∃ lib, Library.read Sample.pressing.text = .ok lib ∧
      lib.entries.map Entry.id = [1, 2] ∧
      lib.entries.map (fun e => ["artist", "title"].map e.fields.get?) =
        [[some "Air", some "Venus"], [some "", some "Run "]] := by
  have rows : Library.rowsOfText Sample.tracks =
      [(" n\ttitle\tn", 2), ("01\tVenus \t1", 3), ("02\t\tx", 6)] := by decide +kernel
  have more : Library.rowsOfText (Sample.tracks ++ "\n\n03\t\r\n") =
      [(" n\ttitle\tn", 2), ("01\tVenus \t1", 3), ("02\t\tx", 6), ("03\t", 8)] := by decide +kernel
  have few : (Text.lines Sample.tracks).length < 2 ^ 32 := by decide +kernel
  have few' : (Text.lines (Sample.tracks ++ "\n\n03\t\r\n")).length < 2 ^ 32 := by decide +kernel
  have few'' : (Text.lines Sample.pressing.text).length < 2 ^ 32 := by decide +kernel
  obtain ⟨_, _, _, _, read, _⟩ := library_reads_table few
  obtain ⟨_, _, _, _, read', _⟩ := library_reads_table few'
  obtain ⟨_, _, _, _, _, back⟩ := library_reads_table few''
  refine ⟨rows, ?_, ?_, by decide +kernel, ?_⟩
  · obtain ⟨lib, made, length, entries⟩ := (read _ _ _ rows).2 (by decide +kernel)
    obtain ⟨e, here, number, _, holds, _⟩ := entries 1 "02\t\tx" 6 rfl
    refine ⟨lib, made, length, e, here, number, ?_, ?_⟩
    · exact (holds "n" "x").mpr ⟨["n", "title"], [], by decide +kernel, by simp, by decide +kernel⟩
    · exact (holds "title" "").mpr ⟨["n"], ["n"], by decide +kernel, by simp, by decide +kernel⟩
  · rw [(read' _ _ _ more).1]
    exact ⟨"03\t", 8, by decide +kernel, by decide +kernel⟩
  · obtain ⟨lib, made, ids, values, _⟩ := back Sample.pressing (Or.inl rfl)
    exact ⟨lib, made, ids, values⟩

end MediaPaths
