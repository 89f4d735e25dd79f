import MediaPaths.Distinct
import MediaPaths.Event
import MediaPaths.Text.Basic

/-!
The media library: entries with numbers and fields. It is read from a table whose first line that is
not blank names the columns, separated by tabs, and whose further lines hold one entry each.
-/
namespace MediaPaths

structure Entry where
  id : Nat
  fields : Row
  deriving DecidableEq

structure Library where
  entries : List Entry
  deriving DecidableEq

/-- Asks for the `fetch` fields of the accepted entries, one row for each combination of values that
the `group` fields have. -/
structure Query where
  filter : Filter
  fetch : List String
  group : List String
  deriving DecidableEq

def cells (line : String) : List String := (line.toList.splitOn '\t').map String.ofList

def Table.project (row : Row) (names : List String) : Row :=
  Table.ofList (names.filterMap fun name => (row.get? name).map (name, ·))

namespace Library

def empty : Library := ⟨[]⟩

def rowsOfText (text : String) : List (String × Nat) :=
  ((Text.lines text).zipIdx 1).filter fun line => Text.trim line.1 ≠ ""

def nextId (count line : Nat) : Except Fault Nat :=
  if count + 1 ≤ maxId then .ok (count + 1) else .error (.tooManyEntries line)

/-- The entries of numbered lines, with `count` entries before them; of columns with one name the
last one counts. -/
def readEntries (columns : List String) (count : Nat) :
    List (String × Nat) → Except Fault (List Entry)
  | [] => .ok []
  | (line, number) :: rest =>
    if (cells line).length = columns.length then do
      let id ← nextId count number
      let entries ← readEntries columns (count + 1) rest
      return ⟨id, Table.ofList (columns.zip (cells line))⟩ :: entries
    else .error (.raggedLine number columns.length (cells line).length)

/-- The names in a header line; the cells below them are not trimmed. -/
def columnsOf (header : String) : List String := (cells header).map Text.trim

def read (text : String) : Except Fault Library :=
  match rowsOfText text with
  | [] => .ok empty
  | (header, _) :: rest =>
    match readEntries (columnsOf header) 0 rest with
    | .ok entries => .ok ⟨entries⟩
    | .error fault => .error fault

def readEvents (text : String) : List Event :=
  match rowsOfText text, read text with
  | (header, _) :: _, .ok lib => [.loadedLibrary lib.entries.length (columnsOf header)]
  | _, _ => []

def accepted (lib : Library) (filter : Filter) : List Entry :=
  lib.entries.filter fun e => filter.accepts e.fields

/-- A missing field and an empty one are different values of a group. -/
def rows (lib : Library) (q : Query) : List Row :=
  (distinctBy (fun e => q.group.map e.fields.get?) (lib.accepted q.filter)).map fun e =>
    e.fields.project q.fetch

def ids (lib : Library) (filter : Filter) : List Nat := (lib.accepted filter).map (·.id)

end Library

end MediaPaths
