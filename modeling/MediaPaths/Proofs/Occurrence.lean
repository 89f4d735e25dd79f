import MediaPaths.Text.Basic

/-!
Where a text first occurs in another. The division of a text at a separator is the one at its first
occurrence (`Text.cut?_eq_some_iff`), and there is none exactly when the separator does not occur
(`Text.cut?_eq_none_iff`). The empty separator occurs at the very front.
-/
namespace MediaPaths.Text

/-- `s` has `separator` between `value` and `left`, and nowhere sooner. -/
structure FirstAt (separator value left s : List Char) : Prop where
  whole : s = value ++ separator ++ left
  soonest : ∀ before after, s = before ++ separator ++ after → value.length ≤ before.length

theorem afterLead?_eq_none_iff {lead s : List Char} : afterLead? lead s = none ↔ ¬ lead <+: s := by
  rw [Option.eq_none_iff_forall_ne_some]
  simp only [ne_eq, afterLead?_eq_some_iff]
  constructor
  · intro absent leads
    obtain ⟨rest, eq⟩ := leads
    exact absent rest eq.symm
  · intro absent rest eq
    exact absent ⟨rest, eq.symm⟩

theorem firstAt_nil_iff {separator value left : List Char} :
    FirstAt separator value left [] ↔ separator = [] ∧ value = [] ∧ left = [] := by
  constructor
  · intro first
    obtain ⟨front, rfl⟩ := List.append_eq_nil_iff.mp first.whole.symm
    obtain ⟨rfl, rfl⟩ := List.append_eq_nil_iff.mp front
    exact ⟨rfl, rfl, rfl⟩
  · intro empty
    obtain ⟨rfl, rfl, rfl⟩ := empty
    exact ⟨rfl, fun _ _ _ => Nat.zero_le _⟩

theorem firstAt_of_lead {separator left s : List Char} (lead : s = separator ++ left) :
    FirstAt separator [] left s :=
  ⟨lead, fun _ _ _ => Nat.zero_le _⟩

theorem FirstAt.unique {separator value left value' left' s : List Char}
    (first : FirstAt separator value left s) (first' : FirstAt separator value' left' s) :
    value = value' ∧ left = left' := by
  have near := first.soonest value' left' first'.whole
  have near' := first'.soonest value left first.whole
  have same : value.length = value'.length := Nat.le_antisymm near near'
  have eq := first.whole.symm.trans first'.whole
  rw [List.append_assoc, List.append_assoc] at eq
  obtain ⟨rfl, rest⟩ := List.append_inj eq same
  exact ⟨rfl, List.append_cancel_left rest⟩

/-- Where the separator does not lead, its first occurrence moves with the text behind it. -/
theorem firstAt_cons_iff {separator value left s : List Char} {c : Char}
    (absent : ¬ separator <+: c :: s) :
    FirstAt separator (c :: value) left (c :: s) ↔ FirstAt separator value left s := by
  constructor
  · intro first
    refine ⟨List.cons.inj first.whole |>.2, fun before after eq => ?_⟩
    have further := first.soonest (c :: before) after (congrArg (c :: ·) eq)
    simpa using further
  · intro first
    refine ⟨congrArg (c :: ·) first.whole, fun before after eq => ?_⟩
    cases before with
    | nil => exact absurd ⟨after, eq.symm⟩ absent
    | cons d before =>
      have further := first.soonest before after (List.cons.inj eq).2
      simpa using further

theorem cutFrom_eq_some_iff {separator before s value left : List Char} :
    cutFrom separator before s = some (value, left) ↔
      ∃ passed, value = before.reverse ++ passed ∧ FirstAt separator passed left s := by
  induction s generalizing before with
  | nil =>
    by_cases empty : separator = []
    · simp only [cutFrom, empty, ↓reduceIte, Option.some.injEq, Prod.mk.injEq, firstAt_nil_iff,
        true_and]
      constructor
      · intro cut
        obtain ⟨rfl, rfl⟩ := cut
        exact ⟨[], by simp, rfl, rfl⟩
      · intro cut
        obtain ⟨passed, rfl, rfl, rfl⟩ := cut
        simp
    · simp [cutFrom, empty, firstAt_nil_iff]
  | cons c s ih =>
    cases lead : afterLead? separator (c :: s) with
    | some rest =>
      have here := firstAt_of_lead (afterLead?_eq_some_iff.mp lead)
      simp only [cutFrom, lead, Option.some.injEq, Prod.mk.injEq]
      constructor
      · intro cut
        obtain ⟨rfl, rfl⟩ := cut
        exact ⟨[], by simp, here⟩
      · intro cut
        obtain ⟨passed, rfl, first⟩ := cut
        obtain ⟨rfl, rfl⟩ := here.unique first
        simp
    | none =>
      -- The separator does not lead, so one character is passed.
      have absent := afterLead?_eq_none_iff.mp lead
      simp only [cutFrom, lead, ih]
      constructor
      · intro cut
        obtain ⟨passed, rfl, first⟩ := cut
        exact ⟨c :: passed, by simp, (firstAt_cons_iff absent).mpr first⟩
      · intro cut
        obtain ⟨passed, rfl, first⟩ := cut
        cases passed with
        | nil => exact absurd ⟨left, by simpa using first.whole.symm⟩ absent
        | cons d passed =>
          obtain rfl : c = d := (List.cons.inj first.whole).1
          exact ⟨passed, by simp, (firstAt_cons_iff absent).mp first⟩

theorem cut?_eq_some_iff {separator s value left : List Char} :
    cut? separator s = some (value, left) ↔ FirstAt separator value left s := by
  simp [cut?, cutFrom_eq_some_iff]

theorem cutFrom_eq_none_iff {separator before s : List Char} :
    cutFrom separator before s = none ↔ ¬ separator <:+: s := by
  induction s generalizing before with
  | nil => simp [cutFrom]
  | cons c s ih =>
    rw [List.infix_cons_iff, not_or, ← afterLead?_eq_none_iff, cutFrom]
    cases afterLead? separator (c :: s) with
    | some rest => simp
    | none => simp [ih]

theorem cut?_eq_none_iff {separator s : List Char} :
    cut? separator s = none ↔ ¬ separator <:+: s :=
  cutFrom_eq_none_iff

theorem exists_firstAt {separator s : List Char} (occurs : separator <:+: s) :
    ∃ value left, FirstAt separator value left s := by
  cases cut : cut? separator s with
  | none => exact absurd occurs (cut?_eq_none_iff.mp cut)
  | some p => exact ⟨p.1, p.2, cut?_eq_some_iff.mp cut⟩

end MediaPaths.Text
