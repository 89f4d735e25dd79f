import MediaPaths.Table
import MediaPaths.Text.Quoted
import MediaPaths.Wildcard

/-!
Conditions on the fields of an entry. The bindings of a path become one condition each, in the order
of the names, every later one put before the conjunction of those before it.
-/
namespace MediaPaths

inductive Filter where
  | everything
  | equals (field value : String)
  | matching (field : String) (glob : Glob)
  | and (left right : Filter)
  deriving DecidableEq

namespace Filter

def condition (field value : String) : Except Fault Filter :=
  if hasWildcard value then
    match Glob.compile value with
    | .ok glob => .ok (.matching field glob)
    | .error fault => .error fault
  else .ok (.equals field value)

def restrict : Filter → Filter → Filter
  | .everything, c => c
  | f, c => .and c f

def restrictAll (f : Filter) : List (String × String) → Except Fault Filter
  | [] => .ok f
  | (field, value) :: rest =>
    match condition field value with
    | .ok c => restrictAll (f.restrict c) rest
    | .error fault => .error fault

def ofRow (row : Row) : Except Fault Filter := restrictAll .everything row.entries

def conditions : Filter → List Filter
  | .everything => []
  | .and l r => l.conditions ++ r.conditions
  | leaf => [leaf]

/-- A field that is missing satisfies no condition. -/
def accepts (row : Row) : Filter → Bool
  | .everything => true
  | .equals field value => (row.get? field).any (· == value)
  | .matching field glob => (row.get? field).any glob.accepts
  | .and l r => l.accepts row && r.accepts row

def text : Filter → String
  | .everything => "*"
  | .equals field value => field ++ " = " ++ Text.quoted value
  | .matching field glob => field ++ " LIKE " ++ Text.quoted glob.like
  | .and l r => l.text ++ " AND " ++ r.text

end Filter

end MediaPaths
