import MediaPaths.Browse

/-!
Browsing through any backend. A backend answers queries in a monad of its own, so it may keep a log
of them, change its mind or fail; what it is asked, and in which order, is part of the computation.
A library in memory is the backend that answers from its entries, and browsing through it is
browsing the library (`Library.lines_backend`).
-/
namespace MediaPaths

structure Backend (m : Type → Type) where
  rows : Query → ExceptT Fault m (List Row)
  ids : Filter → ExceptT Fault m (List Nat)

namespace Backend

variable {m : Type → Type} [Monad m] (b : Backend m)

/-- Without a filter nothing is asked. A pending pattern is looked at when the rows are there. -/
def lines (w : Walk) (level : Level) : ExceptT Fault m (List String) := do
  let query ← w.query level
  let rows ← b.rows query
  let test ← w.lineTest
  return distinct ((rows.map level.render).filter test)

def list (w : Walk) : ExceptT Fault m (List String) := b.lines w w.browseLevel

def candidates (w : Walk) : ExceptT Fault m (List String) := b.lines w w.target

def selection (w : Walk) : ExceptT Fault m (List Nat) := do
  let filter ← w.filter
  b.ids filter

theorem lines_congr {w v : Walk} (level : Level) (bindings : v.bindings = w.bindings)
    (fields : v.fields = w.fields) (pending : v.pending = w.pending) :
    b.lines v level = b.lines w level := by
  have filter : v.filter = w.filter := by rw [Walk.filter, Walk.filter, bindings]
  have asked : v.query level = w.query level := by rw [Walk.query, Walk.query, filter, fields]
  have tested : v.lineTest = w.lineTest := by rw [Walk.lineTest, Walk.lineTest, pending]
  rw [lines, lines, asked, tested]

theorem selection_congr {w v : Walk} (bindings : v.bindings = w.bindings) :
    b.selection v = b.selection w := by
  have filter : v.filter = w.filter := by rw [Walk.filter, Walk.filter, bindings]
  rw [selection, selection, filter]

end Backend

namespace Library

def backend (lib : Library) : Backend Id where
  rows q := pure (lib.rows q)
  ids filter := pure (lib.ids filter)

theorem lines_backend (lib : Library) (w : Walk) (level : Level) :
    (lib.backend.lines w level).run = lib.lines w level := by
  unfold Backend.lines lines
  cases w.query level with
  | error fault => rfl
  | ok q => cases w.lineTest <;> rfl

theorem list_backend (lib : Library) (w : Walk) : (lib.backend.list w).run = lib.list w :=
  lib.lines_backend w w.browseLevel

theorem candidates_backend (lib : Library) (w : Walk) :
    (lib.backend.candidates w).run = lib.candidates w :=
  lib.lines_backend w w.target

theorem selection_backend (lib : Library) (w : Walk) :
    (lib.backend.selection w).run = lib.selection w := by
  unfold Backend.selection selection
  cases w.filter <;> rfl

end Library

end MediaPaths
