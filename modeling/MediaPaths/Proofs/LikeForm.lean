import Mathlib.Data.List.Infix
import MediaPaths.Proofs.Denotation

/-!
A pattern's form for `LIKE`, against the pattern. The form keeps the characters that stand for
themselves as they are, so a percent sign or an underscore among them turns into a wildcard: the
form stands for what the pattern would with a star and a question mark in their places
(`Like.fits_form_iff`). It therefore accepts whatever the pattern does, and more than that exactly
when the pattern has one of the two.
-/
namespace MediaPaths

namespace Like

/-- Reading a pattern of `LIKE` without an escape character: `%` is any run of characters, `_` any
one, and every other character is itself. -/
def fits : List Char → List Char → Bool
  | [], s => s.isEmpty
  | c :: p, s =>
    if c = '%' then s.tails.any (fits p)
    else
      match s with
      | [] => false
      | d :: s => (c = '_' || c = d) && fits p s

def accepts (pattern candidate : String) : Bool := fits pattern.toList candidate.toList

def formed (c : Char) : Char := if c = '*' then '%' else if c = '?' then '_' else c

def widened (c : Char) : Char := if c = '%' then '*' else if c = '_' then '?' else c

variable {p s : List Char}

theorem fits_percent_iff :
    fits ('%' :: p) s = true ↔ ∃ run rest, s = run ++ rest ∧ fits p rest = true := by
  simp only [fits, ↓reduceIte, List.any_eq_true, List.mem_tails]
  constructor
  · rintro ⟨rest, ⟨run, whole⟩, fitting⟩
    exact ⟨run, rest, whole.symm, fitting⟩
  · rintro ⟨run, rest, rfl, fitting⟩
    exact ⟨rest, List.suffix_append run rest, fitting⟩

theorem fits_underscore_iff :
    fits ('_' :: p) s = true ↔ ∃ d rest, s = d :: rest ∧ fits p rest = true := by
  cases s <;> simp [fits]

theorem fits_other_iff {c : Char} (percent : c ≠ '%') (underscore : c ≠ '_') :
    fits (c :: p) s = true ↔ ∃ rest, s = c :: rest ∧ fits p rest = true := by
  cases s with
  | nil => simp [fits, percent]
  | cons d s => simp [fits, percent, underscore, eq_comm (a := d)]

end Like

namespace Glob

variable {p s : List Char}

theorem mem_of_denotes {c : Char} (star : c ≠ '*') (question : c ≠ '?') (denotes : Denotes p s)
    (member : c ∈ p) : c ∈ s := by
  induction denotes with
  | nil => exact member
  | star run tail ih =>
    have later := (List.mem_cons.mp member).resolve_left star
    exact List.mem_append_right run (ih later)
  | any d tail ih =>
    have later := (List.mem_cons.mp member).resolve_left question
    exact List.mem_cons_of_mem d (ih later)
  | same _ _ tail ih =>
    rcases List.mem_cons.mp member with rfl | later
    · exact List.mem_cons_self
    · exact List.mem_cons_of_mem _ (ih later)

end Glob

namespace Like

theorem fits_form_iff (p s : List Char) :
    fits (p.map formed) s = true ↔ Glob.Denotes (p.map widened) s := by
  induction p generalizing s with
  | nil =>
    constructor
    · intro empty
      obtain rfl := List.isEmpty_iff.mp empty
      exact Glob.Denotes.nil
    · intro denotes
      cases denotes
      rfl
  | cons c p ih =>
    rw [List.map_cons, List.map_cons]
    by_cases run : c = '*' ∨ c = '%'
    · have form : formed c = '%' := by rcases run with rfl | rfl <;> rfl
      have reading : widened c = '*' := by rcases run with rfl | rfl <;> rfl
      simp only [form, reading, fits_percent_iff, Glob.denotes_star_iff, ih]
    · by_cases one : c = '?' ∨ c = '_'
      · have form : formed c = '_' := by rcases one with rfl | rfl <;> rfl
        have reading : widened c = '?' := by rcases one with rfl | rfl <;> rfl
        simp only [form, reading, fits_underscore_iff, Glob.denotes_question_iff, ih]
      · obtain ⟨star, percent⟩ := not_or.mp run
        obtain ⟨question, underscore⟩ := not_or.mp one
        have form : formed c = c := by simp [formed, star, question]
        have reading : widened c = c := by simp [widened, percent, underscore]
        simp only [form, reading, fits_other_iff percent underscore,
          Glob.denotes_same_iff star question, ih]

theorem denotes_widened {p s : List Char} (denotes : Glob.Denotes p s) :
    Glob.Denotes (p.map widened) s := by
  induction denotes with
  | nil => exact Glob.Denotes.nil
  | star run tail ih => exact Glob.Denotes.star run ih
  | any d tail ih => exact Glob.Denotes.any d ih
  | @same c p s star question tail ih =>
    rw [List.map_cons]
    by_cases percent : c = '%'
    · subst percent
      exact Glob.Denotes.star ['%'] ih
    · by_cases underscore : c = '_'
      · subst underscore
        exact Glob.Denotes.any '_' ih
      · have reading : widened c = c := by simp [widened, percent, underscore]
        rw [reading]
        exact Glob.Denotes.same star question ih

theorem map_widened {p : List Char} (plain : '%' ∉ p ∧ '_' ∉ p) : p.map widened = p := by
  have each : ∀ c ∈ p, widened c = id c := by
    intro c member
    have percent : c ≠ '%' := fun same => plain.1 (same ▸ member)
    have underscore : c ≠ '_' := fun same => plain.2 (same ▸ member)
    simp [widened, percent, underscore]
  rw [List.map_congr_left each, List.map_id]

theorem exists_denotes_widened (p : List Char) :
    ∃ s, Glob.Denotes (p.map widened) s ∧ '%' ∉ s ∧ '_' ∉ s := by
  induction p with
  | nil => exact ⟨[], Glob.Denotes.nil, by simp, by simp⟩
  | cons c p ih =>
    obtain ⟨s, denotes, percent, underscore⟩ := ih
    rw [List.map_cons]
    by_cases run : widened c = '*'
    · rw [run]
      exact ⟨s, Glob.Denotes.star [] denotes, percent, underscore⟩
    · by_cases one : widened c = '?'
      · rw [one]
        exact ⟨'a' :: s, Glob.Denotes.any 'a' denotes, by simp [percent], by simp [underscore]⟩
      · have kept : widened c = c ∧ c ≠ '%' ∧ c ≠ '_' := by grind [widened]
        refine ⟨widened c :: s, Glob.Denotes.same run one denotes, ?_, ?_⟩
        · simp [kept.1, Ne.symm kept.2.1, percent]
        · simp [kept.1, Ne.symm kept.2.2, underscore]

theorem accepts_like_iff (g : Glob) (candidate : String) :
    accepts g.like candidate = true ↔
      Glob.Denotes (g.source.toList.map widened) candidate.toList := by
  rw [accepts, Glob.like, String.toList_ofList]
  exact fits_form_iff g.source.toList candidate.toList

theorem accepts_like_of_accepts {g : Glob} {candidate : String}
    (accepted : g.accepts candidate = true) : accepts g.like candidate = true := by
  rw [accepts_like_iff]
  exact denotes_widened ((g.accepts_iff_denotes candidate).mp accepted)

end Like

/-- The form accepts what the pattern accepts, and nothing else only where no character that stands
for itself is a wildcard of the form. -/
theorem like_form_agrees_iff {pattern : String} {g : Glob}
    (compiled : Glob.compile pattern = .ok g) :
    (∀ candidate, Like.accepts g.like candidate = true ↔
      Glob.Denotes (pattern.toList.map Like.widened) candidate.toList) ∧
    (∀ candidate, g.accepts candidate = true → Like.accepts g.like candidate = true) ∧
    ((∀ candidate, g.accepts candidate = true ↔ Like.accepts g.like candidate = true) ↔
      '%' ∉ pattern.toList ∧ '_' ∉ pattern.toList) := by
  obtain ⟨rfl, _⟩ := Glob.compile_eq_ok_iff.mp compiled
  refine ⟨Like.accepts_like_iff g, fun _ => Like.accepts_like_of_accepts, ?_⟩
  constructor
  · intro agree
    obtain ⟨s, denotes, percent, underscore⟩ := Like.exists_denotes_widened g.source.toList
    have formed : Like.accepts g.like (String.ofList s) = true := by
      rw [Like.accepts_like_iff, String.toList_ofList]
      exact denotes
    have denoted := (g.accepts_iff_denotes _).mp ((agree _).mpr formed)
    rw [String.toList_ofList] at denoted
    constructor
    · intro member
      exact percent (Glob.mem_of_denotes (by decide) (by decide) denoted member)
    · intro member
      exact underscore (Glob.mem_of_denotes (by decide) (by decide) denoted member)
  · intro plain candidate
    rw [g.accepts_iff_denotes, Like.accepts_like_iff, Like.map_widened plain]

namespace Sample

def pocket : Glob := ⟨"Po*ck?t", "Po*ck?t".toList.splitOn '*', rfl, by decide⟩

def discount : Glob := ⟨"100%*", "100%*".toList.splitOn '*', rfl, by decide⟩

end Sample

theorem like_form_agrees_iff_pocket :
    Glob.compile "Po*ck?t" = .ok Sample.pocket ∧ Sample.pocket.like = "Po%ck_t" ∧
      (∀ candidate, Sample.pocket.accepts candidate = true ↔
        Like.accepts "Po%ck_t" candidate = true) ∧
      Glob.compile "100%*" = .ok Sample.discount ∧
      ¬ ∀ candidate, Sample.discount.accepts candidate = true ↔
        Like.accepts Sample.discount.like candidate = true := by
  have compiled : Glob.compile "Po*ck?t" = .ok Sample.pocket :=
    Glob.compile_eq_ok_iff.mpr ⟨rfl, Sample.pocket.fits⟩
  have compiled' : Glob.compile "100%*" = .ok Sample.discount :=
    Glob.compile_eq_ok_iff.mpr ⟨rfl, Sample.discount.fits⟩
  have form : Sample.pocket.like = "Po%ck_t" := by decide
  obtain ⟨_, _, agree_iff⟩ := like_form_agrees_iff compiled
  obtain ⟨_, _, agree_iff'⟩ := like_form_agrees_iff compiled'
  refine ⟨compiled, form, ?_, compiled', ?_⟩
  · rw [← form]
    exact agree_iff.mpr (by decide)
  · rw [agree_iff']
    decide

theorem like_form_widens_percent :
    ¬ ∀ (pattern : String) (g : Glob), Glob.compile pattern = .ok g → ∀ candidate : String,
      g.accepts candidate = true ↔ Like.accepts g.like candidate = true := by
  intro claimed
  have compiled : Glob.compile "100%*" = .ok Sample.discount :=
    Glob.compile_eq_ok_iff.mpr ⟨rfl, Sample.discount.fits⟩
  have refused : ¬ Sample.discount.accepts "1000 Hits" = true := by decide
  have formed : Like.accepts Sample.discount.like "1000 Hits" = true := by decide
  exact refused ((claimed "100%*" Sample.discount compiled "1000 Hits").mpr formed)

end MediaPaths
