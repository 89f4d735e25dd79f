import Mathlib.Data.List.Basic
import MediaPaths.Proofs.Conjunction
import MediaPaths.Proofs.Listing

/-!
Going deeper. A path that goes on behind a slash keeps every binding of the shorter path, as long as
no name stands in two levels, so it selects some of the entries that the shorter path selects and no
others.
-/
namespace MediaPaths

/-- No name stands in two of the levels; within a level it may be repeated. -/
def LevelsApart (levels : List Level) : Prop :=
  levels.Pairwise fun a b => ∀ name ∈ a.names, name ∉ b.names

instance (levels : List Level) : Decidable (LevelsApart levels) :=
  inferInstanceAs (Decidable (List.Pairwise _ levels))

namespace Walk

theorem given_names_apart {levels : List Level} (apart : LevelsApart levels)
    (front back : List String) :
    ∀ p ∈ given levels front, ∀ q ∈ given (levels.drop front.length) back, q.1 ≠ p.1 := by
  intro p before q behind same
  obtain ⟨i, level, e, at_level, at_element, gave⟩ := mem_given before
  obtain ⟨j, deeper, f, at_deeper, _, gave'⟩ := mem_given behind
  obtain ⟨inside, _⟩ := List.getElem?_eq_some_iff.mp at_element
  have known := (Level.gives_bounds gave).1
  have known' := (Level.gives_bounds gave').1
  have cut : levels = levels.take front.length ++ levels.drop front.length :=
    (List.take_append_drop _ levels).symm
  have level_before : level ∈ levels.take front.length := by
    apply List.mem_of_getElem? (i := i)
    rw [List.getElem?_take_of_lt inside, at_level]
  rw [LevelsApart, cut, List.pairwise_append] at apart
  exact apart.2.2 level level_before deeper (List.mem_of_getElem? at_deeper) p.1 known
    (same ▸ known')

/-- More elements bind more names. An element that was pending is bound, behind all others. -/
theorem bindings_within_append {levels : List Level} (apart : LevelsApart levels)
    (es : List String) {more : List String} (goesOn : more ≠ []) :
    (Table.ofList (contributions levels es)).Within
      (Table.ofList (contributions levels (es ++ more))) := by
  have longer : matched levels.length es <+: matched levels.length (es ++ more) :=
    (matched_front levels.length es).trans (front_matched_append levels.length es goesOn)
  obtain ⟨back, whole⟩ := longer
  unfold contributions
  rw [← whole, given_append]
  exact Table.within_ofList_append (given_names_apart apart _ back)

end Walk

theorem Library.ids_sublist (lib : Library) {narrow wide : Filter}
    (weaker : ∀ row, narrow.accepts row = true → wide.accepts row = true) :
    (lib.ids narrow).Sublist (lib.ids wide) := by
  apply List.Sublist.map
  exact List.monotone_filter_right lib.entries fun e => weaker e.fields

theorem deeper_path_narrows {reg : Registry} {path : String} {w : Walk}
    (resolved : reg.resolve path = .ok w) (apart : LevelsApart w.rule.levels) (more : String) :
    ∃ v, reg.resolve (path ++ "/" ++ more) = .ok v ∧ v.rule = w.rule ∧
      w.bindings.Within v.bindings ∧
      ∀ narrow, v.filter = .ok narrow → ∃ wide, w.filter = .ok wide ∧
        (∀ row, narrow.accepts row = true → wide.accepts row = true) ∧
        ∀ lib : Library, ∃ some_ids all_ids, lib.selection v = .ok some_ids ∧
          lib.selection w = .ok all_ids ∧ some_ids.Sublist all_ids := by
  obtain ⟨address, registered, read, found, rfl⟩ := Registry.resolve_eq_ok_iff.mp resolved
  refine ⟨_, Registry.resolve_append read found more, ?_, ?_⟩
  · rw [Rule.walk_eq, Rule.walk_eq]
  have within : (registered.rule.walk address.remainder).bindings.Within
      (registered.rule.walk (address.remainder ++ "/" ++ more)).bindings := by
    rw [Rule.walk_eq] at apart ⊢
    rw [Rule.walk_eq, elements_append]
    exact Walk.bindings_within_append apart _ (elements_slash_ne_nil more)
  refine ⟨within, ?_⟩
  intro narrow filtered
  obtain ⟨wide, filtered', weaker⟩ := Filter.ofRow_of_within within filtered
  refine ⟨wide, filtered', weaker, ?_⟩
  intro lib
  have chosen := lib.ids_sublist weaker
  exact ⟨lib.ids narrow, lib.ids wide, by simp [Library.selection, filtered],
    by simp [Library.selection, Walk.filter, filtered'], chosen⟩

theorem deeper_path_narrows_wildcard :
    Sample.registry.resolve "//Artists/A*" = .ok (Sample.rule.walk "/A*") ∧
      LevelsApart Sample.rule.levels ∧ (Sample.rule.walk "/A*").pending = some "A*" ∧
      Sample.library.selection (Sample.rule.walk "/A*") = .ok [1, 2, 3, 4] ∧
      ∃ v, Sample.registry.resolve "//Artists/A*/01 - Venus" = .ok v ∧
        (Sample.rule.walk "/A*").bindings.Within v.bindings ∧
        ∃ ids, Sample.library.selection v = .ok ids ∧ ids.Sublist [1, 2, 3, 4] ∧ ids = [1] := by
  have resolved : Sample.registry.resolve "//Artists/A*" = .ok (Sample.rule.walk "/A*") := by rfl
  have apart : LevelsApart Sample.rule.levels := by decide
  have selected : Sample.library.selection (Sample.rule.walk "/A*") = .ok [1, 2, 3, 4] := by rfl
  obtain ⟨v, resolved', _, within, narrows⟩ := deeper_path_narrows resolved apart "01 - Venus"
  obtain rfl : Sample.rule.walk "/A*/01 - Venus" = v := Except.ok.inj resolved'
  obtain ⟨wide, _, _, every⟩ := narrows _ rfl
  obtain ⟨ids, all_ids, chosen, chosen', shorter⟩ := every Sample.library
  obtain rfl : [1, 2, 3, 4] = all_ids := Except.ok.inj (selected.symm.trans chosen')
  exact ⟨resolved, apart, rfl, selected, _, resolved', within, ids, chosen, shorter,
    Except.ok.inj (chosen.symm.trans rfl)⟩

end MediaPaths
