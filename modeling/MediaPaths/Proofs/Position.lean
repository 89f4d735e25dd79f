import Mathlib.Data.List.Basic
import MediaPaths.Proofs.PathWalk

/-!
Where a walk stands, by the number of elements alone: the level of the last element, the level after
it, and the level that is listed. Counting past the last level stays there, which `Rule.levelAt`
does as well, so no case needs to know how deep the rule is.
-/
namespace MediaPaths

namespace Rule

variable (rule : Rule)

theorem levelAt_congr {i j : Nat} (same : min i rule.lastIndex = min j rule.lastIndex) :
    rule.levelAt i = rule.levelAt j := by
  simp only [levelAt, same]

theorem level?_eq_levelAt {i : Nat} (inside : i ≤ rule.lastIndex) :
    rule.level? i = some (rule.levelAt i) := by
  have positive := rule.length_pos
  have bound : i < rule.levels.length := by
    simp only [lastIndex] at inside
    omega
  simp [level?, levelAt, Nat.min_eq_left inside, List.getElem?_eq_getElem bound]

@[simp] theorem rule_walk (path : String) : (rule.walk path).rule = rule := by
  rw [rule.walk_eq]

end Rule

namespace Walk

variable (rule : Rule) {path : String} {front : List String} {last : String}

theorem position_concat (ends : elements path = front ++ [last]) :
    (rule.walk path).position = some (min front.length rule.lastIndex) := by
  have positive := rule.length_pos
  rw [rule.walk_eq, ends]
  simp only [stop_eq positive, Rule.lastIndex, List.length_append, List.length_singleton]
  rw [if_neg (by simp)]
  congr 1
  omega

theorem target_concat (ends : elements path = front ++ [last]) :
    (rule.walk path).target = rule.levelAt front.length := by
  have inside : min front.length rule.lastIndex ≤ rule.lastIndex := Nat.min_le_right _ _
  rw [target, current, position_concat rule ends, rule.rule_walk, Option.bind_some,
    rule.level?_eq_levelAt inside, Option.getD_some]
  apply rule.levelAt_congr
  omega

theorem next_concat (ends : elements path = front ++ [last]) :
    (rule.walk path).next = rule.levelAt (front.length + 1) := by
  simp only [next, position_concat rule ends, rule.rule_walk]
  apply rule.levelAt_congr
  omega

theorem target_of_position {w : Walk} {i : Nat} {level : Level} (stopped : w.position = some i)
    (here : w.rule.levels[i]? = some level) : w.target = level := by
  simp [target, current, stopped, Rule.level?, here]

theorem browseLevel_of_open {w : Walk} (unsettled : w.settled = false) :
    w.browseLevel = w.target := by
  simp [browseLevel, unsettled]

/-- Nothing is typed, or the last element is concrete text. -/
def Chosen (es : List String) : Prop :=
  ∀ e, es.getLast? = some e → e ≠ "" ∧ '*' ∉ e.toList ∧ '?' ∉ e.toList

theorem Chosen.plain (chosen : Chosen (front ++ [last])) : hasWildcard last = false :=
  (no_wildcard_iff last).mpr (chosen last (by simp)).2

theorem Chosen.openToken {es : List String} (chosen : Chosen es) (depth : Nat) :
    openToken depth es = none := by
  rcases List.eq_nil_or_concat' es with rfl | ⟨front, last, rfl⟩
  · exact openToken_nil depth
  · exact openToken_concat chosen.plain depth front

/-- Concrete text is settled unless it lies deeper than the rule. -/
theorem Chosen.choosesLast (chosen : Chosen (front ++ [last])) (depth : Nat) :
    choosesLast depth (front ++ [last]) = decide (front.length + 1 ≤ depth) := by
  have nonempty := (chosen last (by simp)).1
  simp [Walk.choosesLast, nonempty, chosen.plain]

theorem browseLevel_of_chosen (chosen : Chosen (elements path)) :
    (rule.walk path).browseLevel = rule.levelAt (elements path).length := by
  have positive := rule.length_pos
  rcases List.eq_nil_or_concat' (elements path) with empty | ⟨front, last, ends⟩
  · rw [rule.walk_eq, empty]
    simp [browseLevel, target, current, next]
  · rw [ends] at chosen
    have settled : (rule.walk path).settled = decide (front.length + 1 ≤ rule.levels.length) := by
      rw [rule.walk_eq, ends]
      exact chosen.choosesLast _
    have full : (rule.walk path).isFull = decide (rule.lastIndex ≤ front.length) := by
      rw [isFull, position_concat rule ends, rule.rule_walk]
      by_cases deep : rule.lastIndex ≤ front.length
      · simp [deep]
      · simp only [deep, decide_false, beq_eq_false_iff_ne, ne_eq, Option.some.injEq]
        omega
    rw [browseLevel, settled, full, target_concat rule ends, next_concat rule ends, ends,
      List.length_append, List.length_singleton]
    by_cases deep : rule.lastIndex ≤ front.length
    · -- At the last level or beyond it, one element more leads nowhere else.
      simp only [deep, decide_true, Bool.not_true, Bool.and_false, Bool.false_eq_true, ↓reduceIte]
      apply rule.levelAt_congr
      omega
    · have within : front.length + 1 ≤ rule.levels.length := by
        simp only [Rule.lastIndex] at deep
        omega
      simp [deep, within]

end Walk

end MediaPaths
