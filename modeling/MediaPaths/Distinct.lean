import Std.Data.TreeSet

/-!
Keeping, of the items with one key, the first. The keys met so far are held in a search tree, and
`distinctBy_cons` says what that comes to: an item takes the later items with its key away.
-/
namespace MediaPaths

variable {α κ : Type} [Ord κ]

def distinctFrom (key : α → κ) (seen : Std.TreeSet κ) : List α → List α
  | [] => []
  | a :: rest =>
    let k := key a
    if seen.contains k then distinctFrom key seen rest
    else a :: distinctFrom key (seen.insert k) rest

def distinctBy (key : α → κ) (items : List α) : List α := distinctFrom key ∅ items

def distinct [Ord α] (items : List α) : List α := distinctBy id items

theorem distinctBy_nil (key : α → κ) : distinctBy key [] = [] := rfl

theorem distinctBy_eq_cons (key : α → κ) (a : α) (rest : List α) :
    distinctBy key (a :: rest) = a :: distinctFrom key ((∅ : Std.TreeSet κ).insert (key a)) rest := by
  simp [distinctBy, distinctFrom]

variable [Std.TransOrd κ]

theorem distinctFrom_eq_filter (key : α → κ) (seen : Std.TreeSet κ) (items : List α) :
    distinctFrom key seen items = (distinctBy key items).filter (fun a => !seen.contains (key a)) := by
  induction items generalizing seen with
  | nil => rfl
  | cons a rest ih =>
    have first : distinctBy key (a :: rest) = a ::
        (distinctBy key rest).filter (fun b => !(compare (key a) (key b) == .eq)) := by
      simp [distinctBy_eq_cons, ih ((∅ : Std.TreeSet κ).insert (key a))]
    rw [first, distinctFrom]
    by_cases h : seen.contains (key a)
    · simp only [h, if_true, ih seen, List.filter_cons, Bool.not_true, Bool.false_eq_true, if_false,
        List.filter_filter]
      refine List.filter_congr fun b _ => ?_
      by_cases e : compare (key a) (key b) = .eq
      · simp [e, ← Std.TreeSet.contains_congr e, h]
      · simp [e]
    · simp only [h, Bool.false_eq_true, if_false, ih (seen.insert (key a)), List.filter_cons,
        Bool.not_false, if_true, List.filter_filter]
      congr 1
      refine List.filter_congr fun b _ => ?_
      simp [Std.TreeSet.contains_insert, Bool.and_comm]

variable [Std.LawfulEqOrd κ] [DecidableEq κ]

theorem distinctBy_cons (key : α → κ) (a : α) (rest : List α) :
    distinctBy key (a :: rest) = a :: (distinctBy key rest).filter (fun b => key b ≠ key a) := by
  rw [distinctBy_eq_cons, distinctFrom_eq_filter]
  congr 1
  refine List.filter_congr fun b _ => ?_
  rw [Std.TreeSet.contains_insert, Bool.eq_iff_iff]
  simp [ne_comm]

omit [DecidableEq κ] in
theorem nodup_keys_distinctBy (key : α → κ) (items : List α) :
    ((distinctBy key items).map key).Nodup := by
  classical
  induction items with
  | nil => simp [distinctBy_nil]
  | cons b rest ih =>
    simp only [distinctBy_cons, List.map_cons, List.nodup_cons]
    constructor
    · simp
    · exact ih.sublist (List.filter_sublist.map key)

end MediaPaths
