import MediaPaths.Level
import MediaPaths.Proofs.Occurrence

/-!
The regular expression of a template as a tree, and its matching by priority: of all the ways in which
an expression may match, the first that reaches the end of the text counts. A capture prefers the
shorter text, an optional part is rather taken than skipped, and of two parts in a row the first one
decides before the second. Main statement: fitting a token to a template finds just that way
(`Template.fit_eq_matchWhole`), and the tree is written as the template's expression
(`Template.expression_eq`).
-/
namespace MediaPaths

/-- The expressions that templates need; a capture takes any text, as short as possible. -/
inductive Expression where
  | text (literal : List Char)
  | capture
  | seq (first second : Expression)
  | optional (inner : Expression)
  deriving DecidableEq, Repr

namespace Expression

def source : Expression → List Char
  | .text literal => Template.escaped literal
  | .capture => Template.captured
  | .seq first second => first.source ++ second.source
  | .optional inner => Template.opened ++ inner.source ++ [')', '?']

def captures : Expression → Nat
  | .text _ => 0
  | .capture => 1
  | .seq first second => first.captures + second.captures
  | .optional inner => inner.captures

/-- One way to match a beginning of a text. A capture in a part that was skipped has no text. -/
structure Attempt where
  captured : List (Option (List Char))
  left : List Char
  deriving DecidableEq, Repr

def cuts : List Char → List (List Char × List Char)
  | [] => [([], [])]
  | c :: s => ([], c :: s) :: (cuts s).map fun p => (c :: p.1, p.2)

/-- All the ways to match a beginning of a text, the preferred ones first. -/
def attempts : Expression → List Char → List Attempt
  | .text literal, s => if literal <+: s then [⟨[], s.drop literal.length⟩] else []
  | .capture, s => (cuts s).map fun p => ⟨[some p.1], p.2⟩
  | .seq first second, s =>
    (first.attempts s).flatMap fun a =>
      (second.attempts a.left).map fun b => ⟨a.captured ++ b.captured, b.left⟩
  | .optional inner, s => inner.attempts s ++ [⟨List.replicate inner.captures none, s⟩]

def matchWhole (e : Expression) (s : List Char) : Option (List (Option (List Char))) :=
  ((e.attempts s).find? fun a => a.left.isEmpty).map Attempt.captured

def bound (names : List String) (captured : List (Option (List Char))) : List (String × String) :=
  (names.zip captured).filterMap fun p => p.2.map fun value => (p.1, String.ofList value)

def outcome (names : List String) (attempts : List Attempt) : Option (List (String × String)) :=
  (attempts.find? fun a => a.left.isEmpty).map fun a => bound names a.captured

theorem bound_skipped (names : List String) (n : Nat) :
    bound names (List.replicate n none) = [] := by
  simp only [bound, List.filterMap_eq_nil_iff, Option.map_eq_none_iff]
  intro p member
  exact List.eq_of_mem_replicate (List.of_mem_zip member).2

theorem matchWhole_bound (e : Expression) (names : List String) (s : List Char) :
    (e.matchWhole s).map (bound names) = outcome names (e.attempts s) := by
  simp [matchWhole, outcome, Function.comp_def]

theorem attempts_text (literal s : List Char) : (Expression.text literal).attempts s =
    ((Text.afterLead? literal s).map fun left => (⟨[], left⟩ : Attempt)).toList := by
  cases lead : Text.afterLead? literal s with
  | none =>
    have absent := Text.afterLead?_eq_none_iff.mp lead
    simp [attempts, absent]
  | some left =>
    obtain rfl := Text.afterLead?_eq_some_iff.mp lead
    simp [attempts]

theorem attempts_text_seq (literal : List Char) (e : Expression) (s : List Char) :
    (Expression.seq (.text literal) e).attempts s =
      match Text.afterLead? literal s with
      | some left => e.attempts left
      | none => [] := by
  rw [attempts, attempts_text]
  cases Text.afterLead? literal s <;> simp

theorem attempts_capture (s : List Char) :
    Expression.capture.attempts s = (Expression.seq .capture (.text [])).attempts s := by
  simp [attempts, List.map_eq_flatMap]

theorem outcome_capture_seq (name : String) (names : List String) (e : Expression)
    (s : List Char) : outcome (name :: names) ((Expression.seq .capture e).attempts s) =
      (cuts s).findSome? fun p =>
        (outcome names (e.attempts p.2)).map ((name, String.ofList p.1) :: ·) := by
  simp only [outcome, attempts, List.flatMap_map, List.find?_flatMap, List.find?_map,
    List.map_findSome?, Option.map_map, Function.comp_def]
  rfl

theorem outcome_optional (names : List String) (e : Expression) (s : List Char) :
    outcome names ((Expression.optional e).attempts s) =
      (outcome names (e.attempts s)).or (if s = [] then some [] else none) := by
  simp only [outcome, attempts, List.find?_append, List.find?_singleton]
  cases e.attempts s |>.find? fun a => a.left.isEmpty with
  | some a => simp
  | none => cases s <;> simp [bound_skipped]

end Expression

namespace Template

open Expression (bound cuts outcome)

def toExpression : Template → Expression
  | .literal text => .text text
  | .slot text _ rest =>
    if rest = .literal [] then .seq (.text text) .capture
    else .seq (.text text) (.seq .capture (.optional rest.toExpression))

theorem openings_groups (t : Template) :
    t.toExpression.source = t.openings ++ (List.replicate t.groups [')', '?']).flatten := by
  induction t with
  | literal text => simp [toExpression, Expression.source, openings, groups]
  | slot text name rest ih =>
    by_cases last : rest = .literal []
    · simp [toExpression, Expression.source, openings, groups, last]
    · simp [toExpression, Expression.source, openings, groups, last, ih, List.replicate_succ',
        List.append_assoc]

theorem expression_eq (t : Template) :
    t.expression = beginning ++ t.toExpression.source ++ ['$'] := by
  rw [expression, openings_groups, List.append_assoc beginning]

/-- A placeholder takes the shortest text behind which the rest fits or nothing is left. -/
theorem capture_eq (rest : List Char → Option (List (String × String))) (name : String)
    (held s : List Char) : capture rest name held s =
      (cuts s).findSome? fun p =>
        ((rest p.2).or (if p.2 = [] then some [] else none)).map
          ((name, String.ofList (held.reverse ++ p.1)) :: ·) := by
  induction s generalizing held with
  | nil => cases fits : rest [] <;> simp [capture, cuts, fits]
  | cons c s ih =>
    cases fits : rest (c :: s) with
    | some more => simp [capture, cuts, fits]
    | none => simp [capture, cuts, fits, ih, List.findSome?_map, Function.comp_def]

theorem fit_eq_outcome (t : Template) (s : List Char) :
    t.fit s = outcome t.names (t.toExpression.attempts s) := by
  induction t generalizing s with
  | literal text =>
    simp only [fit, toExpression, names, Expression.attempts_text, outcome]
    cases lead : Text.afterLead? text s with
    | none =>
      have differs : s ≠ text := by
        intro same
        exact Text.afterLead?_eq_none_iff.mp lead (same ▸ List.prefix_refl s)
      simp [differs]
    | some left =>
      obtain rfl := Text.afterLead?_eq_some_iff.mp lead
      cases left <;> simp [bound]
  | slot text name rest ih =>
    -- What follows the placeholder may be left out at the end, also where it is nothing at all.
    have tail : ∃ e : Expression,
        (Template.slot text name rest).toExpression.attempts s =
          (Expression.seq (.text text) (.seq .capture e)).attempts s ∧
        ∀ left, outcome rest.names (e.attempts left) =
          (rest.fit left).or (if left = [] then some [] else none) := by
      by_cases last : rest = .literal []
      · refine ⟨.text [], ?_, fun left => ?_⟩
        · simp only [toExpression, last, ↓reduceIte, Expression.attempts_text_seq,
            Expression.attempts_capture]
        · have nothing := ih left
          simp only [last, toExpression] at nothing ⊢
          rw [← nothing]
          cases left <;> simp [fit]
      · refine ⟨.optional rest.toExpression, ?_, fun left => ?_⟩
        · simp only [toExpression, last, ↓reduceIte]
        · rw [Expression.outcome_optional, ih left]
    obtain ⟨e, written, further⟩ := tail
    rw [written, Expression.attempts_text_seq, fit]
    cases Text.afterLead? text s with
    | none => rfl
    | some left =>
      simp only [names, Expression.outcome_capture_seq, capture_eq, further, List.reverse_nil,
        List.nil_append]

theorem fit_eq_matchWhole (t : Template) (s : List Char) :
    t.fit s = (t.toExpression.matchWhole s).map (bound t.names) := by
  rw [Expression.matchWhole_bound, fit_eq_outcome]

end Template

end MediaPaths
