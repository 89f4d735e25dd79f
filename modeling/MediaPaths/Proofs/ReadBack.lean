import MediaPaths.Proofs.Conjunction
import MediaPaths.Proofs.PathWalk

/-!
Rendering a whole rule and reading the path back. The lines of a legible row, one a level, make a
path that binds the row's values again and selects the entries that have them.
-/
namespace MediaPaths

section Lines

variable {levels : List Level} {row : Row}

theorem getLast?_lines (levels : List Level) (row : Row) :
    (levels.map (·.render row)).getLast? = levels.getLast?.map (·.render row) :=
  List.getLast?_map

theorem openToken_lines (plain : ∀ level, levels.getLast? = some level →
      '*' ∉ (level.render row).toList ∧ '?' ∉ (level.render row).toList) :
    Walk.openToken levels.length (levels.map (·.render row)) = none := by
  rw [Option.eq_none_iff_forall_ne_some]
  intro token pending
  obtain ⟨_, _, last, wild⟩ := (Walk.openToken_eq_some_iff _ _ token).mp pending
  rw [getLast?_lines, Option.map_eq_some_iff] at last
  obtain ⟨level, at_end, rfl⟩ := last
  exact wild.elim (plain level at_end).1 (plain level at_end).2

theorem choosesLast_lines (some_level : levels ≠ [])
    (nonempty : ∀ level ∈ levels, level.render row ≠ "")
    (plain : ∀ level, levels.getLast? = some level →
      '*' ∉ (level.render row).toList ∧ '?' ∉ (level.render row).toList) :
    Walk.choosesLast levels.length (levels.map (·.render row)) = true := by
  rw [Walk.choosesLast_iff]
  have deep := List.length_pos_iff.mpr some_level
  have at_end := List.getLast?_eq_some_getLast some_level
  have same : (levels.map (·.render row)).length = levels.length := List.length_map _
  refine ⟨by omega, by omega, (levels.getLast some_level).render row, ?_, ?_, ?_⟩
  · rw [getLast?_lines, at_end, Option.map_some]
  · exact nonempty _ (List.getLast_mem some_level)
  · exact plain _ at_end

theorem given_lines (legible : ∀ level ∈ levels, level.template.Legible row)
    (nonempty : ∀ level ∈ levels, level.render row ≠ "") :
    Walk.given levels (levels.map (·.render row)) =
      (levels.flatMap Level.names).map fun name => (name, Template.shown row name) := by
  induction levels with
  | nil => rfl
  | cons level levels ih =>
    have first := Level.gives_render (legible level (by simp)) (nonempty level (by simp))
    have rest := ih (fun l member => legible l (by simp [member]))
      fun l member => nonempty l (by simp [member])
    simp only [Walk.given, List.map_cons, List.zip_cons_cons, List.flatMap_cons, List.map_append]
      at rest ⊢
    rw [first, rest]

theorem ofList_shown {names : List String}
    (present : ∀ name ∈ names, (row.get? name).isSome = true) :
    Table.ofList (names.map fun name => (name, Template.shown row name)) = row.project names := by
  apply Table.ext_get?
  intro name
  rw [Table.ofList, Table.get?_insertAll_map, Table.get?_project]
  by_cases member : name ∈ names
  · rw [if_pos member, if_pos member, Template.shown_eq (present name member)]
  · rw [if_neg member, if_neg member, Table.get?_empty]

end Lines

namespace Filter

variable {row : Row} {names : List String} {filter : Filter}

theorem accepts_of_agree (built : ofRow (row.project names) = .ok filter) {x : Row}
    (agree : ∀ name ∈ names, x.get? name = row.get? name) : filter.accepts x = true := by
  rw [accepts_ofRow built]
  intro name value bound
  obtain ⟨c, made⟩ := (ofRow_exists_iff _).mp ⟨filter, built⟩ name value bound
  rw [Table.get?_project] at bound
  by_cases member : name ∈ names
  · rw [if_pos member] at bound
    exact demands_own made ((agree name member).trans bound)
  · simp [member] at bound

theorem agree_of_accepts (built : ofRow (row.project names) = .ok filter)
    (present : ∀ name ∈ names, (row.get? name).isSome = true)
    (plain : ∀ name ∈ names, ∀ value, row.get? name = some value → hasWildcard value = false)
    {x : Row} (accepted : filter.accepts x = true) :
    ∀ name ∈ names, x.get? name = row.get? name := by
  intro name member
  have own := Template.shown_eq (present name member)
  have demanded := (accepts_ofRow built x).mp accepted name (Template.shown row name)
    (by rw [Table.get?_project, if_pos member, own])
  rw [own]
  exact (demands_plain (plain name member _ own) x).mp demanded

end Filter

theorem rendered_path_reads_back {reg : Registry} {action : String} {registered : Registered}
    (found : reg.get? action = some registered) (noSlash : '/' ∉ action.toList) (row : Row)
    (present : ∀ level ∈ registered.rule.levels, ∀ name ∈ level.names,
      (row.get? name).isSome = true)
    (nonempty : ∀ level ∈ registered.rule.levels, level.render row ≠ "")
    (slashFree : ∀ level ∈ registered.rule.levels, '/' ∉ (level.render row).toList)
    (plain : ∀ level, registered.rule.levels.getLast? = some level →
      '*' ∉ (level.render row).toList ∧ '?' ∉ (level.render row).toList)
    (legible : ∀ level ∈ registered.rule.levels, level.template.Legible row) :
    let names := registered.rule.levels.flatMap Level.names
    ∃ w, reg.resolve (virtualPath action (registered.rule.levels.map (·.render row))) = .ok w ∧
      w.isFull = true ∧ w.settled = true ∧ w.pending = none ∧ w.bindings = row.project names ∧
      ∀ filter, w.filter = .ok filter →
        (∀ x : Row, (∀ name ∈ names, x.get? name = row.get? name) → filter.accepts x = true) ∧
        ((∀ name ∈ names, ∀ value, row.get? name = some value →
            '*' ∉ value.toList ∧ '?' ∉ value.toList) →
          ∀ x : Row, filter.accepts x = true → ∀ name ∈ names, x.get? name = row.get? name) := by
  intro names
  have known : ∀ name ∈ names, (row.get? name).isSome = true := by
    intro name member
    obtain ⟨level, inside, named⟩ := List.mem_flatMap.mp member
    exact present level inside name named
  have slashFreeLines : ∀ e ∈ registered.rule.levels.map (·.render row), '/' ∉ e.toList := by
    intro e member
    obtain ⟨level, inside, rfl⟩ := List.mem_map.mp member
    exact slashFree level inside
  have open_none := openToken_lines plain
  have walked := registered.rule.walk_eq
    (String.join ((registered.rule.levels.map (·.render row)).map ("/" ++ ·)))
  simp only [elements_join _ slashFreeLines, Walk.contributions, Walk.matched, open_none,
    Option.isSome_none, Bool.false_eq_true, ↓reduceIte, given_lines legible nonempty] at walked
  rw [ofList_shown known] at walked
  refine ⟨_, resolve_virtualPath found noSlash _, ?_⟩
  rw [walked]
  refine ⟨?_, choosesLast_lines registered.rule.nonempty nonempty plain, rfl, rfl, ?_⟩
  · simp [Walk.isFull, Walk.stop_eq registered.rule.length_pos, Rule.lastIndex,
      registered.rule.nonempty]
  · intro filter built
    constructor
    · intro x
      exact Filter.accepts_of_agree built
    · intro concrete x
      apply Filter.agree_of_accepts built known
      intro name member value own
      exact (no_wildcard_iff value).mpr (concrete name member value own)

namespace Sample

def live : Row :=
  Table.ofList [("artist", "Who?"), ("n", "01"), ("title", "Run - Live"), ("year", "1970")]

end Sample

theorem rendered_path_reads_back_live :
    Sample.registry.get? "Artists" = some ⟨0, Sample.rule⟩ ∧ '/' ∉ "Artists".toList ∧
      (∀ level ∈ Sample.rule.levels, ∀ name ∈ level.names, (Sample.live.get? name).isSome = true) ∧
      (∀ level ∈ Sample.rule.levels, level.render Sample.live ≠ "") ∧
      (∀ level ∈ Sample.rule.levels, '/' ∉ (level.render Sample.live).toList) ∧
      (∀ level, Sample.rule.levels.getLast? = some level →
        '*' ∉ (level.render Sample.live).toList ∧ '?' ∉ (level.render Sample.live).toList) ∧
      (∀ level ∈ Sample.rule.levels, level.template.Legible Sample.live) ∧
      ∃ w, Sample.registry.resolve "//Artists/Who?/01 - Run - Live" = .ok w ∧ w.isFull = true ∧
        w.bindings = Table.ofList [("artist", "Who?"), ("n", "01"), ("title", "Run - Live")] := by
  have present : ∀ level ∈ Sample.rule.levels, ∀ name ∈ level.names,
      (Sample.live.get? name).isSome = true := by decide
  have nonempty : ∀ level ∈ Sample.rule.levels, level.render Sample.live ≠ "" := by decide
  have slashFree : ∀ level ∈ Sample.rule.levels, '/' ∉ (level.render Sample.live).toList := by
    decide
  have plain : ∀ level, Sample.rule.levels.getLast? = some level →
      '*' ∉ (level.render Sample.live).toList ∧ '?' ∉ (level.render Sample.live).toList := by
    intro level last
    obtain rfl : Sample.track = level := Option.some.inj last
    decide
  have legible : ∀ level ∈ Sample.rule.levels, level.template.Legible Sample.live := by decide
  refine ⟨Sample.artists_registered, by decide, present, nonempty, slashFree, plain, legible, ?_⟩
  obtain ⟨w, resolved, full, _, _, bindings, _⟩ := rendered_path_reads_back
    Sample.artists_registered (by decide) Sample.live present nonempty slashFree plain legible
  refine ⟨w, ?_, full, ?_⟩
  · rw [← resolved]
    exact congrArg _ (by decide)
  · rw [bindings]
    decide

end MediaPaths
