import MediaPaths.Proofs.Position

/-!
Elements deeper than the levels of a rule. None of them is looked at, so it does not matter which
they are; but the last level then no longer has the final element of the path. A wildcard there is
bound instead of being left pending, as it is in any other place that is not the last.
-/
namespace MediaPaths

namespace Walk

variable {depth : Nat} {levels : List Level} {es more : List String} {last : String}

theorem not_within_beyond (deep : es.length = depth) (goesOn : more ≠ []) :
    ¬(es ++ more).length ≤ depth := by
  have further := List.length_pos_iff.mpr goesOn
  rw [List.length_append]
  omega

theorem openToken_beyond (deep : es.length = depth) (goesOn : more ≠ []) :
    openToken depth (es ++ more) = none := by
  rw [openToken, if_neg (not_within_beyond deep goesOn)]

theorem choosesLast_beyond (deep : es.length = depth) (goesOn : more ≠ []) :
    choosesLast depth (es ++ more) = false := by
  simp only [choosesLast, not_within_beyond deep goesOn, decide_false, Bool.false_and]

theorem stop_beyond (deep : es.length = depth) : stop depth (es ++ more) = stop depth es := by
  have clipped : min (es ++ more).length depth = min es.length depth := by
    rw [List.length_append]
    omega
  simp only [stop, clipped]

theorem contributions_beyond (deep : es.length = levels.length) (goesOn : more ≠ []) :
    contributions levels (es ++ more) = given levels es := by
  rw [contributions, matched, openToken_beyond deep goesOn, Option.isSome_none,
    if_neg Bool.false_ne_true, given_append, deep, List.drop_length]
  simp only [given, List.zip_nil_left, List.flatMap_nil, List.append_nil]

theorem visited_beyond (deep : es.length = levels.length) (goesOn : more ≠ []) :
    visited levels (es ++ more) = levels := by
  simp [visited, openToken_beyond deep goesOn]

theorem visited_deep (deep : es.length = levels.length) : visited levels es = levels := by
  rw [visited, deep, List.take_length, ite_self]

theorem openToken_last (deep : (es ++ [last]).length = depth) (wild : hasWildcard last = true) :
    openToken depth (es ++ [last]) = some last := by
  simp [openToken, ← deep, Option.filter, wild]

theorem choosesLast_last (deep : (es ++ [last]).length = depth) :
    choosesLast depth (es ++ [last]) = (last ≠ "" && !hasWildcard last) := by
  simp [choosesLast, ← deep]

theorem contributions_last (deep : (es ++ [last]).length = levels.length)
    (wild : hasWildcard last = true) : contributions levels (es ++ [last]) = given levels es := by
  simp [contributions, matched, openToken_last deep wild]

end Walk

namespace Rule

variable (rule : Rule) {es more : List String}

theorem walk_deep (deep : es.length = rule.levels.length) (slashFree : ∀ e ∈ es, '/' ∉ e.toList) :
    rule.walk (slashed es) =
      ⟨rule, Table.ofList (Walk.contributions rule.levels es), rule.levels.flatMap Level.names,
        Walk.stop rule.levels.length es, Walk.openToken rule.levels.length es,
        Walk.choosesLast rule.levels.length es⟩ := by
  have read : elements (slashed es) = es := elements_join es slashFree
  rw [rule.walk_eq, read, Walk.visited_deep deep]

/-- A path with more elements than levels: nothing of what is deeper is in the result. -/
theorem walk_beyond (deep : es.length = rule.levels.length) (goesOn : more ≠ [])
    (slashFree : ∀ e ∈ es ++ more, '/' ∉ e.toList) :
    rule.walk (slashed (es ++ more)) =
      ⟨rule, Table.ofList (Walk.given rule.levels es), rule.levels.flatMap Level.names,
        Walk.stop rule.levels.length es, none, false⟩ := by
  have read : elements (slashed (es ++ more)) = es ++ more := elements_join _ slashFree
  rw [rule.walk_eq, read, Walk.contributions_beyond deep goesOn, Walk.visited_beyond deep goesOn,
    Walk.stop_beyond deep, Walk.openToken_beyond deep goesOn, Walk.choosesLast_beyond deep goesOn]

theorem exists_last (deep : es.length = rule.levels.length) :
    ∃ front last level, es = front ++ [last] ∧ rule.levels[front.length]? = some level ∧
      rule.levels.getLast? = some level := by
  rcases List.eq_nil_or_concat' es with rfl | ⟨front, last, rfl⟩
  · exact absurd deep (Nat.ne_of_lt rule.length_pos)
  · rw [List.length_append, List.length_singleton] at deep
    have inside : front.length < rule.levels.length := by omega
    refine ⟨front, last, rule.levels[front.length], rfl, List.getElem?_eq_getElem inside, ?_⟩
    rw [List.getLast?_eq_getElem?, ← deep, Nat.add_sub_cancel]
    exact List.getElem?_eq_getElem inside

end Rule

theorem deep_elements_ignored (rule : Rule) {es more : List String}
    (deep : es.length = rule.levels.length) (goesOn : more ≠ [])
    (slashFree : ∀ e ∈ es ++ more, '/' ∉ e.toList) :
    ∃ last level, es.getLast? = some last ∧ rule.levels.getLast? = some level ∧
      let w := rule.walk (slashed es)
      let v := rule.walk (slashed (es ++ more))
      v.fields = w.fields ∧ v.position = w.position ∧ v.pending = none ∧
        (∀ other : List String, other ≠ [] → (∀ e ∈ other, '/' ∉ e.toList) →
          rule.walk (slashed (es ++ other)) = v) ∧
        (hasWildcard last = false →
          v.bindings = w.bindings ∧ v.filter = w.filter ∧ w.pending = none) ∧
        (hasWildcard last = true →
          v.bindings = w.bindings.insertAll ((level.fit last).getD []) ∧ w.pending = some last) ∧
        (last = "" ∨ hasWildcard last = true → v.settled = w.settled) := by
  obtain ⟨front, last, level, rfl, here, deepest⟩ := rule.exists_last deep
  have slashFree' : ∀ e ∈ front ++ [last], '/' ∉ e.toList :=
    fun e member => slashFree e (List.mem_append_left more member)
  refine ⟨last, level, List.getLast?_concat, deepest, ?_⟩
  rw [rule.walk_deep deep slashFree', rule.walk_beyond deep goesOn slashFree]
  refine ⟨rfl, rfl, rfl, ?_, ?_, ?_, ?_⟩
  · intro other further slashFree''
    exact rule.walk_beyond deep further fun e member =>
      (List.mem_append.mp member).elim (slashFree' e) (slashFree'' e)
  · intro plain
    have same := Walk.contributions_concat plain rule.levels front
    exact ⟨congrArg Table.ofList same.symm, by rw [Walk.filter, Walk.filter, same],
      Walk.openToken_concat plain _ front⟩
  · intro wild
    have nonempty : last ≠ "" := by
      rintro rfl
      exact absurd wild (by decide)
    refine ⟨?_, Walk.openToken_last deep wild⟩
    rw [Walk.given_concat here, Walk.contributions_last deep wild, Level.gives, if_neg nonempty,
      Table.ofList, Table.ofList, Table.insertAll_append]
  · intro undecided
    rw [Walk.choosesLast_last deep]
    rcases undecided with rfl | wild
    · rfl
    · simp [wild]

theorem deep_elements_ignored_track :
    ["Air", "0* - *"].length = Sample.rule.levels.length ∧ ["x", ""] ≠ [] ∧
      (∀ e ∈ ["Air", "0* - *"] ++ ["x", ""], '/' ∉ e.toList) ∧
      (Sample.rule.walk "/Air/0* - *").pending = some "0* - *" ∧
      (Sample.rule.walk "/Air/0* - */x/").pending = none ∧
      (Sample.rule.walk "/Air/0* - */x/").value? "n" = some "0*" ∧
      Sample.rule.walk "/Air/0* - */y" = Sample.rule.walk "/Air/0* - */x/" := by
  have deep : ["Air", "0* - *"].length = Sample.rule.levels.length := by decide
  have goesOn : ["x", ""] ≠ [] := by decide
  have slashFree : ∀ e ∈ ["Air", "0* - *"] ++ ["x", ""], '/' ∉ e.toList := by decide
  obtain ⟨last, level, ends, deepest, _, _, closed, any, _, wild, _⟩ :=
    deep_elements_ignored Sample.rule deep goesOn slashFree
  obtain rfl : "0* - *" = last := Option.some.inj ends
  obtain rfl : Sample.track = level := Option.some.inj deepest
  obtain ⟨bound, pending⟩ := wild (by decide)
  refine ⟨deep, goesOn, slashFree, pending, closed, ?_, any ["y"] (by decide) (by decide)⟩
  exact (congrArg (Table.get? · "n") bound).trans rfl

/-- A wildcard in the last level, and concrete text there, stop being the final element. -/
theorem deep_elements_ignored_fails_last :
    Rule.compile "/${artist}/${n} - ${title}" = .ok Sample.rule ∧
      (Sample.rule.walk (slashed ["Air", "0*"])).pending = some "0*" ∧
      (Sample.rule.walk (slashed (["Air", "0*"] ++ ["x"]))).pending = none ∧
      (Sample.rule.walk (slashed ["Air", "01 - Venus"])).settled = true ∧
      (Sample.rule.walk (slashed (["Air", "01 - Venus"] ++ ["x"]))).settled = false ∧
      ¬ ∀ (spec : String) (rule : Rule), Rule.compile spec = .ok rule →
        ∀ es more : List String, es.length = rule.levels.length → more ≠ [] →
          (∀ e ∈ es ++ more, '/' ∉ e.toList) →
          rule.walk (slashed (es ++ more)) = rule.walk (slashed es) := by
  have compiled : Rule.compile "/${artist}/${n} - ${title}" = .ok Sample.rule := by rfl
  have pending : (Sample.rule.walk (slashed ["Air", "0*"])).pending = some "0*" := by rfl
  have closed : (Sample.rule.walk (slashed (["Air", "0*"] ++ ["x"]))).pending = none := by rfl
  refine ⟨compiled, pending, closed, by rfl, by rfl, ?_⟩
  intro ignored
  have same := ignored _ _ compiled ["Air", "0*"] ["x"] (by decide) (by decide) (by decide)
  rw [same, pending] at closed
  exact absurd closed (by decide)

end MediaPaths
