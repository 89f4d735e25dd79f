import MediaPaths.Proofs.Denotation
import MediaPaths.Proofs.Elements
import MediaPaths.Proofs.Legible
import MediaPaths.Proofs.Merge

/-!
The closed form of a walk. A walk is a fold over its steps; what it comes to can be read off the
number of levels and the list of elements, for paths of every length.
-/
namespace MediaPaths

def Level.gives (level : Level) (element : String) : List (String × String) :=
  if element = "" then [] else (level.fit element).getD []

namespace Walk

/-- The wildcard left pending: the last element, unless it lies deeper than the levels. -/
def openToken (depth : Nat) (es : List String) : Option String :=
  if es.length ≤ depth then es.getLast?.filter hasWildcard else none

def choosesLast (depth : Nat) (es : List String) : Bool :=
  es.length ≤ depth && es.getLast?.any fun e => e ≠ "" && !hasWildcard e

def stop (depth : Nat) (es : List String) : Option Nat :=
  match min es.length depth with
  | 0 => none
  | n + 1 => some n

def given (levels : List Level) (es : List String) : List (String × String) :=
  (levels.zip es).flatMap fun (level, e) => level.gives e

def matched (depth : Nat) (es : List String) : List String :=
  if (openToken depth es).isSome then es.dropLast else es

def contributions (levels : List Level) (es : List String) : List (String × String) :=
  given levels (matched levels.length es)

def visited (levels : List Level) (es : List String) : List Level :=
  if (openToken levels.length es).isSome then levels.take es.length else levels

section Elements

variable (depth : Nat) (e f : String) (es : List String)

@[simp] theorem openToken_nil : openToken depth [] = none := by simp [openToken]

@[simp] theorem openToken_single :
    openToken (depth + 1) [e] = if hasWildcard e then some e else none := by
  simp [openToken, Option.filter]

@[simp] theorem openToken_more :
    openToken (depth + 1) (e :: f :: es) = openToken depth (f :: es) := by
  simp [openToken]

@[simp] theorem openToken_zero : openToken 0 es = none := by cases es <;> simp [openToken]

@[simp] theorem choosesLast_nil : choosesLast depth [] = false := by simp [choosesLast]

@[simp] theorem choosesLast_single :
    choosesLast (depth + 1) [e] = (e ≠ "" && !hasWildcard e) := by
  simp [choosesLast]

@[simp] theorem choosesLast_more :
    choosesLast (depth + 1) (e :: f :: es) = choosesLast depth (f :: es) := by
  simp [choosesLast]

@[simp] theorem choosesLast_zero : choosesLast 0 es = false := by
  cases es <;> simp [choosesLast]

@[simp] theorem stop_zero : stop 0 es = none := by simp [stop]

@[simp] theorem stop_nil : stop depth [] = none := by simp [stop]

theorem stop_cons :
    stop (depth + 1) (e :: es) = some (((stop depth es).map (· + 1)).getD 0) := by
  simp only [stop, List.length_cons, Nat.add_min_add_right]
  split <;> simp_all

@[simp] theorem matched_more :
    matched (depth + 1) (e :: f :: es) = e :: matched depth (f :: es) := by
  simp only [matched, openToken_more]
  split <;> simp

end Elements

theorem given_append (levels : List Level) (es more : List String) :
    given levels (es ++ more) = given levels es ++ given (levels.drop es.length) more := by
  induction es generalizing levels with
  | nil => simp [given]
  | cons e es ih =>
    cases levels with
    | nil => simp [given]
    | cons level levels =>
      have tail := ih levels
      simp only [given] at tail
      simp [given, tail]

theorem given_concat {levels : List Level} {es : List String} {level : Level}
    (here : levels[es.length]? = some level) (e : String) :
    given levels (es ++ [e]) = given levels es ++ level.gives e := by
  obtain ⟨inside, rfl⟩ := List.getElem?_eq_some_iff.mp here
  rw [given_append, List.drop_eq_getElem_cons inside]
  simp only [given, List.zip_cons_cons, List.zip_nil_right, List.flatMap_cons, List.flatMap_nil,
    List.append_nil]

theorem mem_given {levels : List Level} {es : List String} {p : String × String}
    (member : p ∈ given levels es) : ∃ (i : Nat) (level : Level) (e : String),
      levels[i]? = some level ∧ es[i]? = some e ∧ p ∈ level.gives e := by
  obtain ⟨⟨level, e⟩, zipped, gave⟩ := List.mem_flatMap.mp member
  obtain ⟨i, here⟩ := List.mem_iff_getElem?.mp zipped
  obtain ⟨at_level, at_element⟩ := List.getElem?_zip_eq_some.mp here
  exact ⟨i, level, e, at_level, at_element, gave⟩

theorem matched_front (depth : Nat) (es : List String) : matched depth es <+: es := by
  unfold matched
  split
  · exact List.dropLast_prefix es
  · exact List.prefix_refl es

theorem front_matched_append (depth : Nat) (es : List String) {more : List String}
    (goesOn : more ≠ []) : es <+: matched depth (es ++ more) := by
  unfold matched
  split
  · rw [List.dropLast_append_of_ne_nil goesOn]
    exact List.prefix_append es more.dropLast
  · exact List.prefix_append es more

theorem openToken_concat {e : String} (plain : hasWildcard e = false) (depth : Nat)
    (es : List String) : openToken depth (es ++ [e]) = none := by
  simp [openToken, Option.filter, plain]

theorem contributions_concat {e : String} (plain : hasWildcard e = false) (levels : List Level)
    (es : List String) : contributions levels (es ++ [e]) = given levels (es ++ [e]) := by
  simp [contributions, matched, openToken_concat plain]

theorem openToken_between (depth : Nat) (es : List String) (e f : String) {tail : List String}
    (goesOn : tail ≠ []) :
    openToken depth (es ++ e :: tail) = openToken depth (es ++ f :: tail) := by
  have last (g : String) : (es ++ g :: tail).getLast? = tail.getLast? := by
    rw [List.append_cons, List.getLast?_append, List.getLast?_eq_some_getLast goesOn, Option.some_or]
  simp only [openToken, last, List.length_append, List.length_cons]

/-- An element that is not the last one puts its bindings between those of the others. -/
theorem contributions_between {levels : List Level} {es : List String} {level : Level}
    (here : levels[es.length]? = some level) {tail : List String} (goesOn : tail ≠ []) :
    ∃ rest, ∀ e, contributions levels (es ++ e :: tail) =
      given levels es ++ level.gives e ++ given (levels.drop (es.length + 1)) rest := by
  have behind (e : String) (more : List String) : given levels (es ++ e :: more) =
      given levels es ++ level.gives e ++ given (levels.drop (es.length + 1)) more := by
    have counted : (es ++ [e]).length = es.length + 1 := by simp
    rw [List.append_cons, given_append, given_concat here, counted]
  cases pending : openToken levels.length (es ++ "" :: tail) with
  | none =>
    refine ⟨tail, fun e => ?_⟩
    rw [contributions, matched, openToken_between _ es e "" goesOn, pending, ← behind]
    rfl
  | some token =>
    refine ⟨tail.dropLast, fun e => ?_⟩
    rw [contributions, matched, openToken_between _ es e "" goesOn, pending, ← behind]
    rw [Option.isSome_some, if_pos rfl, List.dropLast_append_of_ne_nil (List.cons_ne_nil e tail),
      List.dropLast_cons_of_ne_nil goesOn]

theorem contributions_nil (levels : List Level) : contributions levels [] = [] := by
  simp [contributions, given, matched]

theorem contributions_single_open (level : Level) (levels : List Level) {e : String}
    (wild : hasWildcard e = true) : contributions (level :: levels) [e] = [] := by
  simp [contributions, given, matched, wild]

theorem contributions_single_plain (level : Level) (levels : List Level) {e : String}
    (plain : hasWildcard e = false) : contributions (level :: levels) [e] = level.gives e := by
  simp [contributions, given, matched, plain]

theorem contributions_more (level : Level) (levels : List Level) (e f : String)
    (es : List String) : contributions (level :: levels) (e :: f :: es) =
      level.gives e ++ contributions levels (f :: es) := by
  simp [contributions, given]

end Walk

namespace Step

theorem along_nil (index : Nat) (level : Level) (levels : List Level) :
    along index (level :: levels) [] = [⟨index, level, .noElement⟩] := rfl

theorem along_single_open (index : Nat) (level : Level) (levels : List Level) {e : String}
    (wild : hasWildcard e = true) :
    along index (level :: levels) [e] = [⟨index, level, .multimatch e⟩] := by
  simp only [hasWildcard] at wild
  simp [along, visit, wild]

theorem visit_matched (level : Level) (e : String) (final : Bool)
    (goesOn : final = false ∨ hasWildcard e = false) :
    visit level e final =
      if e = "" then .unspecified
      else match level.fit e with
        | some values => .bound values final
        | none => .mismatch e final := by
  have multi : (final && (Features.scan e).multimatch) = false := by
    rcases goesOn with more | plain
    · simp [more]
    · exact Bool.and_eq_false_imp.mpr fun _ => plain
  have empty : (Features.scan e).isEmpty = true ↔ e = "" := by simp [Features.scan]
  cases fitted : level.fit e <;>
    simp only [visit, multi, Bool.false_eq_true, ↓reduceIte, empty, fitted]

theorem visit_ne_multimatch (level : Level) (e : String) (final : Bool)
    (goesOn : final = false ∨ hasWildcard e = false) (token : String) :
    visit level e final ≠ .multimatch token := by
  rw [visit_matched level e final goesOn]
  split
  · simp
  · split <;> simp

theorem along_goes_on (index : Nat) (level : Level) (levels : List Level) (e : String)
    (es : List String) (goesOn : es ≠ [] ∨ hasWildcard e = false) :
    along index (level :: levels) (e :: es) =
      ⟨index, level, visit level e es.isEmpty⟩ :: along (index + 1) levels es := by
  have closed := visit_ne_multimatch level e es.isEmpty (goesOn.imp_left (by simp))
  rw [along]
  split
  · rename_i token eq
    exact absurd eq (closed token)
  · rfl

end Step

namespace Walk

theorem foldl_record_nil (w : Walk) (index : Nat) (levels : List Level) :
    (Step.along index levels []).foldl record w = w := by
  cases levels <;> rfl

/-- The effect of one element that is matched, on a walk that has decided nothing yet. -/
theorem record_visit (rule : Rule) (bindings : Row) (fields : List String)
    (position : Option Nat) (index : Nat) (level : Level) (e : String) (final : Bool)
    (goesOn : final = false ∨ hasWildcard e = false) :
    record ⟨rule, bindings, fields, position, none, false⟩
        ⟨index, level, Step.visit level e final⟩ =
      ⟨rule, bindings.insertAll (level.gives e), fields, some index, none, final && e ≠ ""⟩ := by
  rw [Step.visit_matched level e final goesOn]
  by_cases empty : e = ""
  · simp [empty, record, Level.gives, Table.insertAll]
  · cases found : level.fit e <;> simp [record, Level.gives, Table.insertAll, empty, found]

theorem foldl_record (rule : Rule) (bindings : Row) (fields : List String)
    (position : Option Nat) (index : Nat) (levels : List Level) (es : List String) :
    (Step.along index levels es).foldl record ⟨rule, bindings, fields, position, none, false⟩ =
      ⟨rule, bindings.insertAll (contributions levels es), fields,
        ((stop levels.length es).map (index + ·)).or position,
        openToken levels.length es, choosesLast levels.length es⟩ := by
  induction levels generalizing bindings position index es with
  | nil => simp [Step.along, contributions, given, Table.insertAll]
  | cons level levels ih =>
    rcases es with _ | ⟨e, _ | ⟨f, es⟩⟩
    · simp [foldl_record_nil, contributions_nil, Table.insertAll]
    · cases wild : hasWildcard e with
      | true =>
        rw [Step.along_single_open index level levels wild,
          contributions_single_open level levels wild]
        simp [record, stop_cons, Table.insertAll, wild]
      | false =>
        rw [Step.along_goes_on index level levels e [] (Or.inr wild), List.foldl_cons,
          record_visit rule bindings fields position index level e _ (Or.inr wild),
          foldl_record_nil, contributions_single_plain level levels wild]
        simp [stop_cons, wild]
    · rw [Step.along_goes_on index level levels e (f :: es) (Or.inl (by simp)), List.foldl_cons,
        List.isEmpty_cons, record_visit rule bindings fields position index level e _ (Or.inl rfl),
        Bool.false_and, ih, contributions_more, Table.insertAll_append]
      cases reached : stop levels.length (f :: es) with
      | none => simp [stop_cons, reached]
      | some n => simp [stop_cons, reached, Nat.add_comm n 1, Nat.add_assoc]

end Walk

theorem drop_next {α : Type} {xs rest : List α} {index : Nat} {x : α}
    (here : xs.drop index = x :: rest) : index < xs.length ∧ xs.drop (index + 1) = rest := by
  constructor
  · have counted := congrArg List.length here
    rw [List.length_drop, List.length_cons] at counted
    omega
  · rw [← List.drop_drop, here, List.drop_one, List.tail_cons]

namespace Rule

theorem fieldsMet_visit (rule : Rule) (index : Nat) (level : Level) (e : String) (final : Bool) :
    rule.fieldsMet ⟨index, level, Step.visit level e final⟩ = level.names := by
  unfold Step.visit
  dsimp only
  split
  · rfl
  · split
    · rfl
    · split <;> rfl

theorem fieldsMet_along (rule : Rule) {index : Nat} {levels : List Level} (es : List String)
    (ahead : rule.levels.drop index = levels) :
    (Step.along index levels es).flatMap rule.fieldsMet =
      (Walk.visited levels es).flatMap Level.names := by
  induction levels generalizing index es with
  | nil => simp [Step.along, Walk.visited]
  | cons level levels ih =>
    have further := (drop_next ahead).2
    match es with
    | [] => simp [Step.along_nil, fieldsMet, ahead, Walk.visited]
    | [e] =>
      cases wild : hasWildcard e with
      | true =>
        rw [Step.along_single_open index level levels wild]
        simp [fieldsMet, Walk.visited, wild]
      | false =>
        rw [Step.along_goes_on index level levels e [] (Or.inr wild), List.flatMap_cons,
          fieldsMet_visit, ih [] further]
        simp [Walk.visited, wild]
    | e :: f :: es =>
      rw [Step.along_goes_on index level levels e (f :: es) (Or.inl (by simp)),
        List.flatMap_cons, fieldsMet_visit, ih (f :: es) further]
      simp only [Walk.visited, List.length_cons, Walk.openToken_more]
      split <;> simp

/-- The closed form, in which every part of a walk depends on the elements of the path alone. -/
theorem walk_eq (rule : Rule) (path : String) :
    let es := elements path
    rule.walk path =
      ⟨rule, Table.ofList (Walk.contributions rule.levels es),
        (Walk.visited rule.levels es).flatMap Level.names,
        Walk.stop rule.levels.length es, Walk.openToken rule.levels.length es,
        Walk.choosesLast rule.levels.length es⟩ := by
  intro es
  have fields := fieldsMet_along rule es (List.drop_zero (l := rule.levels))
  simp only [walk, steps, Walk.start, Walk.foldl_record, fields, es]
  simp [Table.ofList]

end Rule

theorem Level.gives_bounds {level : Level} {e : String} {p : String × String}
    (given : p ∈ level.gives e) : p.1 ∈ level.names ∧ p.2.toList <:+: e.toList := by
  unfold Level.gives at given
  split at given
  · simp at given
  · cases found : level.fit e with
    | none => simp [found] at given
    | some pairs => exact Template.fit_bounds found p (by simpa [found] using given)

theorem Level.gives_plain {level : Level} {e : String} (plain : hasWildcard e = false) :
    ∀ p ∈ level.gives e, hasWildcard p.2 = false := by
  intro p given
  have piece := (gives_bounds given).2
  rw [no_wildcard_iff] at plain ⊢
  exact ⟨fun star => plain.1 (piece.subset star),
    fun question => plain.2 (piece.subset question)⟩

theorem Level.gives_names_front (level : Level) (e : String) :
    (level.gives e).map Prod.fst <+: level.names := by
  unfold gives
  split
  · exact List.nil_prefix
  · cases found : level.fit e with
    | none => exact List.nil_prefix
    | some pairs => exact Template.fit_names_front found

theorem Level.gives_render {level : Level} {row : Row} (legible : level.template.Legible row)
    (nonempty : level.render row ≠ "") : level.gives (level.render row) =
      level.names.map fun name => (name, Template.shown row name) := by
  rw [gives, if_neg nonempty, fit_render legible, Option.getD_some]

theorem Walk.mem_contributions {levels : List Level} {es : List String} {p : String × String}
    (member : p ∈ contributions levels es) :
    ∃ (i : Nat) (level : Level) (e : String),
      levels[i]? = some level ∧ es[i]? = some e ∧ p ∈ level.gives e := by
  obtain ⟨i, level, e, at_level, at_element, given⟩ := mem_given member
  obtain ⟨inside, here⟩ := List.getElem?_eq_some_iff.mp at_element
  refine ⟨i, level, e, at_level, ?_, given⟩
  rw [List.prefix_iff_getElem?.mp (matched_front levels.length es) i inside, here]

end MediaPaths
