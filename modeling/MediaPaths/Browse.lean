import MediaPaths.Library
import MediaPaths.Registry

/-!
Browsing a library through a walk. A level is listed by asking the library for one row for each
combination of the walk's fields, rendering the rows, and keeping each line once. Completion of a
path gives its walk or, where the action is unknown, the names that it may be meant for.
-/
namespace MediaPaths

namespace Walk

/-- What the library is asked for to list a level: the names of the level for each combination of
all the walk's fields. -/
def query (w : Walk) (level : Level) : Except Fault Query :=
  match w.filter with
  | .ok filter => .ok ⟨filter, level.names, w.fields⟩
  | .error fault => .error fault

def lineTest (w : Walk) : Except Fault (String → Bool) :=
  match w.pending with
  | none => .ok fun _ => true
  | some token =>
    match Glob.compile token with
    | .ok glob => .ok glob.accepts
    | .error fault => .error fault

end Walk

namespace Library

def lines (lib : Library) (w : Walk) (level : Level) : Except Fault (List String) :=
  match w.query level with
  | .error fault => .error fault
  | .ok q =>
    match w.lineTest with
    | .error fault => .error fault
    | .ok test => .ok (distinct (((lib.rows q).map level.render).filter test))

def linesEvents (lib : Library) (w : Walk) (level : Level) : List Event :=
  match w.query level, lib.lines w level with
  | .ok q, .ok lines => [.listed (lib.rows q).length lines.length level]
  | _, _ => []

def list (lib : Library) (w : Walk) : Except Fault (List String) := lib.lines w w.browseLevel

def candidates (lib : Library) (w : Walk) : Except Fault (List String) := lib.lines w w.target

def selection (lib : Library) (w : Walk) : Except Fault (List Nat) :=
  match w.filter with
  | .ok filter => .ok (lib.ids filter)
  | .error fault => .error fault

end Library

inductive Completion where
  | actions (names : List String)
  | walk (w : Walk)
  deriving DecidableEq

/-- A name without wildcards is completed at its end. -/
def suggestionPath (action : String) : String :=
  "//" ++ (if hasWildcard action then action else action ++ "*")

namespace Registry

def complete (reg : Registry) (path : String) : Except Fault Completion :=
  match reg.resolve path with
  | .ok w => .ok (.walk w)
  | .error (.unknownAction action) =>
    match reg.suggest (suggestionPath action) with
    | .ok names => .ok (.actions names)
    | .error fault => .error fault
  | .error fault => .error fault

def completeEvents (reg : Registry) (path : String) : List Event :=
  match reg.resolve path with
  | .error (.unknownAction action) => [.suggesting action]
  | _ => reg.resolveEvents path

end Registry

end MediaPaths
