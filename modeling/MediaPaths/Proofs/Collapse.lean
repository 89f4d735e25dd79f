import MediaPaths.Distinct

/-!
Collapsing a list in two stages. Where the later items follow from the keys, keeping one item a key
first changes nothing in the end: the first items with a key hold the first items of every kind.
Keeping first items and filtering may trade places.
-/
namespace MediaPaths

variable {α β κ : Type}
variable [Ord κ] [Std.TransOrd κ] [Std.LawfulEqOrd κ] [DecidableEq κ]
variable [Ord β] [Std.TransOrd β] [Std.LawfulEqOrd β] [DecidableEq β]

/-- The test must not tell items with one key apart. -/
theorem filter_distinctBy (key : α → κ) (test : α → Bool)
    (sees : ∀ a b, key a = key b → test a = test b) (items : List α) :
    (distinctBy key items).filter test = distinctBy key (items.filter test) := by
  induction items with
  | nil => rfl
  | cons a rest ih =>
    rw [distinctBy_cons]
    by_cases kept : test a = true
    · rw [List.filter_cons_of_pos kept, List.filter_cons_of_pos kept, distinctBy_cons, ← ih]
      rw [List.filter_filter, List.filter_filter]
      simp only [Bool.and_comm]
    · rw [List.filter_cons_of_neg kept, List.filter_cons_of_neg kept, ← ih, List.filter_filter]
      apply List.filter_congr
      intro b _
      by_cases passes : test b = true
      · have other : key b ≠ key a := fun same => kept (sees b a same ▸ passes)
        simp [passes, other]
      · simp [passes]

theorem filter_distinct (test : β → Bool) (items : List β) :
    (distinct items).filter test = distinct (items.filter test) :=
  filter_distinctBy id test (fun _ _ same => congrArg test same) items

theorem distinct_cons (b : β) (rest : List β) :
    distinct (b :: rest) = b :: distinct (rest.filter (fun c => !c == b)) := by
  rw [distinct, distinctBy_cons, ← distinct, filter_distinct]
  congr 2
  apply List.filter_congr
  intro c _
  by_cases same : c = b <;> simp [same]

theorem distinct_eq_eraseDups (items : List β) : distinct items = items.eraseDups := by
  induction h : items.length using Nat.strongRecOn generalizing items with
  | ind n ih =>
    cases items with
    | nil => rfl
    | cons b rest =>
      have shorter := List.length_filter_le (fun c => !c == b) rest
      simp only [List.length_cons] at h
      rw [distinct_cons, List.eraseDups_cons, ih _ (by omega) _ rfl]

theorem distinct_map_distinctBy (key : α → κ) (f : α → β)
    (follows : ∀ a b, key a = key b → f a = f b) (items : List α) :
    distinct ((distinctBy key items).map f) = distinct (items.map f) := by
  induction items with
  | nil => rfl
  | cons a rest ih =>
    -- An item whose image differs from that of `a` has another key, so the filter by keys is idle.
    have idle : ((distinctBy key rest).filter (fun b => key b ≠ key a)).filter
          (fun b => !f b == f a) = (distinctBy key rest).filter (fun b => !f b == f a) := by
      rw [List.filter_filter]
      apply List.filter_congr
      intro b _
      by_cases image : f b = f a
      · simp [image]
      · have other : key b ≠ key a := fun same => image (follows b a same)
        simp [other]
    rw [distinctBy_cons, List.map_cons, List.map_cons, distinct_cons, distinct_cons]
    congr 1
    calc distinct ((((distinctBy key rest).filter (fun b => key b ≠ key a)).map f).filter
            (fun c => !c == f a))
      _ = distinct (((distinctBy key rest).map f).filter (fun c => !c == f a)) := by
        rw [List.filter_map, List.filter_map]
        exact congrArg (fun l => distinct (l.map f)) idle
      _ = (distinct ((distinctBy key rest).map f)).filter (fun c => !c == f a) :=
        (filter_distinct _ _).symm
      _ = (distinct (rest.map f)).filter (fun c => !c == f a) := by rw [ih]
      _ = distinct ((rest.map f).filter (fun c => !c == f a)) := filter_distinct _ _

theorem distinct_filter_map_distinctBy (key : α → κ) (f : α → β) (test : β → Bool)
    (follows : ∀ a b, key a = key b → f a = f b) (items : List α) :
    distinct (((distinctBy key items).map f).filter test) =
      distinct ((items.map f).filter test) := by
  rw [← filter_distinct, ← filter_distinct, distinct_map_distinctBy key f follows]

end MediaPaths
