import MediaPaths.Filter
import MediaPaths.Rule

/-!
Walking a rule along the elements of a path, level by level. The walk ends where the elements or the
levels run out, or at a final element with a wildcard, which is kept as the pending token instead of
being bound. An empty element leaves its level open.
-/
namespace MediaPaths

/-- The elements of what follows the action in a path. A leading slash opens the first element; an
empty text has none. -/
def elements (path : String) : List String :=
  match path.toList with
  | [] => []
  | c :: rest => ((if c = '/' then rest else c :: rest).splitOn '/').map String.ofList

/-- What happens at one level; `final` tells whether the element is the last of the path. -/
inductive Outcome where
  | noElement
  | multimatch (element : String)
  | unspecified
  | bound (values : List (String × String)) (final : Bool)
  | mismatch (element : String) (final : Bool)
  deriving DecidableEq, Repr

structure Step where
  index : Nat
  level : Level
  outcome : Outcome
  deriving DecidableEq

namespace Step

def visit (level : Level) (element : String) (final : Bool) : Outcome :=
  let features := Features.scan element
  if final && features.multimatch then .multimatch element
  else if features.isEmpty then .unspecified
  else
    match level.fit element with
    | some values => .bound values final
    | none => .mismatch element final

def along (index : Nat) : List Level → List String → List Step
  | [], _ => []
  | level :: _, [] => [⟨index, level, .noElement⟩]
  | level :: levels, element :: rest =>
    match visit level element rest.isEmpty with
    | .multimatch token => [⟨index, level, .multimatch token⟩]
    | outcome => ⟨index, level, outcome⟩ :: along (index + 1) levels rest

end Step

/-- Where a walk stopped and what it learned. `fields` are the names of the levels met; a walk that
runs out of elements meets all levels. `settled` tells that the final element was concrete text. -/
structure Walk where
  rule : Rule
  bindings : Row
  fields : List String
  position : Option Nat
  pending : Option String
  settled : Bool
  deriving DecidableEq

namespace Walk

def start (rule : Rule) (fields : List String) : Walk :=
  ⟨rule, Table.empty, fields, none, none, false⟩

def record (w : Walk) (step : Step) : Walk :=
  let reached := { w with position := some step.index }
  match step.outcome with
  | .noElement => w
  | .multimatch token => { reached with pending := some token }
  | .unspecified => reached
  | .bound values final =>
    { reached with bindings := w.bindings.insertAll values, settled := final }
  | .mismatch _ final => { reached with settled := final }

def current (w : Walk) : Option Level := w.position.bind w.rule.level?

/-- The level after that one; the last level has none after it and stands for itself. -/
def next (w : Walk) : Level :=
  match w.position with
  | some index => w.rule.levelAt (index + 1)
  | none => w.rule.levelAt 0

def isFull (w : Walk) : Bool := w.position == some w.rule.lastIndex

def target (w : Walk) : Level := w.current.getD w.next

/-- The level to list: a concrete final element has been chosen, so its children are listed; an
empty or wildcard element has still to be chosen. -/
def browseLevel (w : Walk) : Level := if w.settled && !w.isFull then w.next else w.target

def value? (w : Walk) (name : String) : Option String := w.bindings.get? name

def filter (w : Walk) : Except Fault Filter := Filter.ofRow w.bindings

end Walk

namespace Rule

def steps (rule : Rule) (path : String) : List Step :=
  Step.along 0 rule.levels (elements path)

def fieldsMet (rule : Rule) (step : Step) : List String :=
  match step.outcome with
  | .noElement => (rule.levels.drop step.index).flatMap Level.names
  | _ => step.level.names

def walk (rule : Rule) (path : String) : Walk :=
  let steps := rule.steps path
  steps.foldl Walk.record (Walk.start rule (steps.flatMap rule.fieldsMet))

end Rule

end MediaPaths
