import Mathlib.Data.List.Forall2
import MediaPaths.Wildcard

/-!
What wildcard patterns stand for, said character by character. The search piece by piece finds just
that: a glob accepts a text exactly when its pattern stands for it (`Glob.accepts_iff_denotes`), that
is, when the text divides into parts, one for each character of the pattern (`glob_accepts_iff`).
-/
namespace MediaPaths

theorem hasWildcard_iff (s : String) :
    hasWildcard s = true ↔ '*' ∈ s.toList ∨ '?' ∈ s.toList := by
  simp [hasWildcard, Features.scan, Features.multimatch]

theorem no_wildcard_iff (s : String) :
    hasWildcard s = false ↔ '*' ∉ s.toList ∧ '?' ∉ s.toList := by
  simp [hasWildcard, Features.scan, Features.multimatch]

namespace Glob

/-- A star stands for any run, a question mark for any one character, all else for itself. -/
inductive Denotes : List Char → List Char → Prop where
  | nil : Denotes [] []
  | star (run : List Char) {p s : List Char} (tail : Denotes p s) : Denotes ('*' :: p) (run ++ s)
  | any (d : Char) {p s : List Char} (tail : Denotes p s) : Denotes ('?' :: p) (d :: s)
  | same {c : Char} {p s : List Char} (star : c ≠ '*') (question : c ≠ '?') (tail : Denotes p s) :
      Denotes (c :: p) (c :: s)

theorem denotes_self (p : List Char) : Denotes p p := by
  induction p with
  | nil => exact Denotes.nil
  | cons c p ih =>
    by_cases star : c = '*'
    · subst c
      exact Denotes.star ['*'] ih
    · by_cases question : c = '?'
      · subst c
        exact Denotes.any '?' ih
      · exact Denotes.same star question ih

section Shapes

variable {p s : List Char}

theorem denotes_nil_iff : Denotes [] s ↔ s = [] := by
  constructor
  · intro denotes
    cases denotes
    rfl
  · rintro rfl
    exact Denotes.nil

theorem denotes_star_iff : Denotes ('*' :: p) s ↔ ∃ run rest, s = run ++ rest ∧ Denotes p rest := by
  constructor
  · intro denotes
    cases denotes with
    | star run tail => exact ⟨run, _, rfl, tail⟩
    | same star _ _ => exact absurd rfl star
  · rintro ⟨run, rest, rfl, tail⟩
    exact Denotes.star run tail

theorem denotes_question_iff : Denotes ('?' :: p) s ↔ ∃ d rest, s = d :: rest ∧ Denotes p rest := by
  constructor
  · intro denotes
    cases denotes with
    | any d tail => exact ⟨d, _, rfl, tail⟩
    | same _ question _ => exact absurd rfl question
  · rintro ⟨d, rest, rfl, tail⟩
    exact Denotes.any d tail

theorem denotes_same_iff {c : Char} (star : c ≠ '*') (question : c ≠ '?') :
    Denotes (c :: p) s ↔ ∃ rest, s = c :: rest ∧ Denotes p rest := by
  constructor
  · intro denotes
    cases denotes with
    | star run tail => exact absurd rfl star
    | any d tail => exact absurd rfl question
    | same _ _ tail => exact ⟨_, rfl, tail⟩
  · rintro ⟨rest, rfl, tail⟩
    exact Denotes.same star question tail

theorem denotes_front_iff (plain : '*' ∉ p ∧ '?' ∉ p) : Denotes (p ++ ['*']) s ↔ p <+: s := by
  induction p generalizing s with
  | nil =>
    simp only [List.nil_append, denotes_star_iff, denotes_nil_iff, List.nil_prefix, iff_true]
    exact ⟨s, [], (List.append_nil s).symm, rfl⟩
  | cons c p ih =>
    simp only [List.mem_cons, not_or] at plain
    obtain ⟨⟨star, star'⟩, question, question'⟩ := plain
    rw [List.cons_append, denotes_same_iff (Ne.symm star) (Ne.symm question)]
    constructor
    · rintro ⟨rest, rfl, tail⟩
      exact List.cons_prefix_cons.mpr ⟨rfl, (ih ⟨star', question'⟩).mp tail⟩
    · rintro ⟨rest, rfl⟩
      exact ⟨p ++ rest, rfl, (ih ⟨star', question'⟩).mpr (List.prefix_append p rest)⟩

end Shapes

theorem afterPiece?_cons (c d : Char) (piece s : List Char) (fits : c = '?' ∨ c = d) :
    afterPiece? (c :: piece) (d :: s) = afterPiece? piece s := by
  simp [afterPiece?, after?, fits]

theorem afterPiece?_cons_inv {c : Char} {piece s rest : List Char}
    (found : afterPiece? (c :: piece) s = some rest) :
    ∃ d left, s = d :: left ∧ (c = '?' ∨ c = d) ∧ afterPiece? piece left = some rest := by
  cases s with
  | nil => simp [afterPiece?, after?] at found
  | cons d left =>
    by_cases fits : c = '?' ∨ c = d
    · rw [afterPiece?_cons c d piece left fits] at found
      exact ⟨d, left, rfl, fits, found⟩
    · simp [afterPiece?, after?, fits] at found

theorem afterPiece?_rest {piece s rest : List Char} (h : afterPiece? piece s = some rest) :
    rest <:+ s ∧ piece.length + rest.length = s.length := by
  induction piece generalizing s with
  | nil =>
    obtain rfl := Option.some.inj h
    exact ⟨List.suffix_refl s, by simp⟩
  | cons c piece ih =>
    obtain ⟨d, left, rfl, _, further⟩ := afterPiece?_cons_inv h
    obtain ⟨suffix, length⟩ := ih further
    exact ⟨suffix.trans (List.suffix_cons d left), by simp only [List.length_cons]; omega⟩

/-- The first place is the best one: it leaves at least what any other place leaves. -/
theorem afterFirst?_leaves_most {piece s place rest : List Char} (within : place <:+ s)
    (fits : afterPiece? piece place = some rest) :
    ∃ most, afterFirst? piece s = some most ∧ rest <:+ most := by
  induction s with
  | nil =>
    obtain rfl := List.suffix_nil.mp within
    exact ⟨rest, fits, List.suffix_refl rest⟩
  | cons c s ih =>
    cases here : afterPiece? piece (c :: s) with
    | some most =>
      refine ⟨most, by simp [afterFirst?, here], ?_⟩
      obtain ⟨suffix, length⟩ := afterPiece?_rest here
      obtain ⟨suffix', length'⟩ := afterPiece?_rest fits
      have shorter := within.length_le
      exact List.suffix_of_suffix_length_le (suffix'.trans within) suffix (by omega)
    | none =>
      have later : place <:+ s := by
        rcases List.suffix_cons_iff.mp within with whole | later
        · rw [whole, here] at fits
          cases fits
        · exact later
      obtain ⟨most, found, suffix⟩ := ih later
      exact ⟨most, by simp [afterFirst?, here, found], suffix⟩

theorem afterFirst?_place {piece s rest : List Char} (h : afterFirst? piece s = some rest) :
    ∃ place, place <:+ s ∧ afterPiece? piece place = some rest := by
  induction s with
  | nil => exact ⟨[], List.suffix_refl [], h⟩
  | cons c s ih =>
    cases here : afterPiece? piece (c :: s) with
    | some most =>
      simp only [afterFirst?, here] at h
      exact ⟨c :: s, List.suffix_refl _, by rw [here, h]⟩
    | none =>
      simp only [afterFirst?, here] at h
      obtain ⟨place, within, fits⟩ := ih h
      exact ⟨place, within.trans (List.suffix_cons c s), fits⟩

theorem fitsEnd_of_suffix {last place s : List Char} (within : place <:+ s)
    (fits : fitsWhole last place = true) : fitsEnd last s = true := by
  have found : afterPiece? last place = some [] := by simpa [fitsWhole] using fits
  have length := (afterPiece?_rest found).2
  have shorter := within.length_le
  simp only [List.length_nil, Nat.add_zero] at length
  have at_end : s.drop (s.length - last.length) = place := by
    rw [length]
    exact (List.suffix_iff_eq_drop.mp within).symm
  simp only [fitsEnd, at_end, fits, Bool.and_true, decide_eq_true_eq]
  omega

/-- What a star can skip in a text it can skip in any longer one. -/
theorem acceptsAfterStar_of_suffix {pieces : List (List Char)} {s t : List Char}
    (within : s <:+ t) (accepted : acceptsAfterStar pieces s = true) :
    acceptsAfterStar pieces t = true := by
  induction pieces generalizing s t with
  | nil => rfl
  | cons piece rest ih =>
    cases rest with
    | nil =>
      simp only [acceptsAfterStar, fitsEnd, Bool.and_eq_true] at accepted
      exact fitsEnd_of_suffix ((List.drop_suffix _ s).trans within) accepted.2
    | cons next rest =>
      cases found : afterFirst? piece s with
      | none => simp [acceptsAfterStar, found] at accepted
      | some left =>
        simp only [acceptsAfterStar, found] at accepted
        obtain ⟨place, inside, fits⟩ := afterFirst?_place found
        obtain ⟨most, first, suffix⟩ := afterFirst?_leaves_most (inside.trans within) fits
        simp only [acceptsAfterStar, first]
        exact ih suffix accepted

def acceptsFromFront : List (List Char) → List Char → Bool
  | [], _ => false
  | [whole], s => fitsWhole whole s
  | first :: next :: rest, s =>
    match afterPiece? first s with
    | some s => acceptsAfterStar (next :: rest) s
    | none => false

theorem accepts_eq (g : Glob) (candidate : String) :
    g.accepts candidate = acceptsFromFront (g.source.toList.splitOn '*') candidate.toList := by
  rw [← g.cut, accepts]
  generalize g.pieces = pieces
  match pieces with
  | [] => rfl
  | [_] => rfl
  | first :: _ :: _ =>
    cases fits : afterPiece? first candidate.toList <;> simp [acceptsFromFront, fits]

theorem acceptsAfterStar_of_fromFront {pieces : List (List Char)} (run s : List Char)
    (accepted : acceptsFromFront pieces s = true) :
    acceptsAfterStar pieces (run ++ s) = true := by
  have within : s <:+ run ++ s := List.suffix_append run s
  match pieces with
  | [] => rfl
  | [whole] => exact fitsEnd_of_suffix within accepted
  | first :: next :: rest =>
    cases fits : afterPiece? first s with
    | none => simp [acceptsFromFront, fits] at accepted
    | some left =>
      simp only [acceptsFromFront, fits] at accepted
      obtain ⟨most, found, suffix⟩ := afterFirst?_leaves_most within fits
      simp only [acceptsAfterStar, found]
      exact acceptsAfterStar_of_suffix suffix accepted

theorem acceptsFromFront_cons (c d : Char) (pieces : List (List Char)) (s : List Char)
    (fits : c = '?' ∨ c = d) :
    acceptsFromFront (pieces.modifyHead (c :: ·)) (d :: s) = acceptsFromFront pieces s := by
  match pieces with
  | [] => rfl
  | [whole] => simp [acceptsFromFront, fitsWhole, afterPiece?_cons c d whole s fits]
  | first :: next :: rest => simp [acceptsFromFront, afterPiece?_cons c d first s fits]

theorem acceptsFromFront_of_denotes {p s : List Char} (h : Denotes p s) :
    acceptsFromFront (p.splitOn '*') s = true := by
  induction h with
  | nil => rfl
  | @star run p s tail ih =>
    have cut : ('*' :: p).splitOn '*' = [] :: p.splitOn '*' := by
      simp [List.splitOn_cons_eq_if_modifyHead]
    obtain ⟨first, rest, pieces⟩ := List.exists_cons_of_ne_nil (List.splitOn_ne_nil '*' p)
    rw [cut, pieces]
    rw [pieces] at ih
    exact acceptsAfterStar_of_fromFront run s ih
  | @any d p s tail ih =>
    rw [List.splitOn_cons_eq_if_modifyHead, if_neg (by decide),
      acceptsFromFront_cons '?' d _ s (Or.inl rfl)]
    exact ih
  | @same c p s star question tail ih =>
    rw [List.splitOn_cons_eq_if_modifyHead, if_neg (by simpa using star),
      acceptsFromFront_cons c c _ s (Or.inr rfl)]
    exact ih

theorem fromFront_of_acceptsAfterStar {piece : List Char} {pieces : List (List Char)}
    {s : List Char} (accepted : acceptsAfterStar (piece :: pieces) s = true) :
    ∃ place, place <:+ s ∧ acceptsFromFront (piece :: pieces) place = true := by
  cases pieces with
  | nil =>
    simp only [acceptsAfterStar, fitsEnd, Bool.and_eq_true] at accepted
    exact ⟨_, List.drop_suffix _ s, accepted.2⟩
  | cons next rest =>
    cases found : afterFirst? piece s with
    | none => simp [acceptsAfterStar, found] at accepted
    | some left =>
      simp only [acceptsAfterStar, found] at accepted
      obtain ⟨place, within, fits⟩ := afterFirst?_place found
      exact ⟨place, within, by simpa only [acceptsFromFront, fits] using accepted⟩

theorem fits_of_acceptsFromFront {c : Char} {pieces : List (List Char)} {s : List Char}
    (accepted : acceptsFromFront (pieces.modifyHead (c :: ·)) s = true) :
    ∃ d left, s = d :: left ∧ (c = '?' ∨ c = d) := by
  have first_found : ∃ piece rest, afterPiece? (c :: piece) s = some rest := by
    match pieces with
    | [] => simp [acceptsFromFront] at accepted
    | [whole] => exact ⟨whole, [], by simpa [acceptsFromFront, fitsWhole] using accepted⟩
    | first :: next :: others =>
      cases found : afterPiece? (c :: first) s with
      | none => simp [acceptsFromFront, found] at accepted
      | some rest => exact ⟨first, rest, found⟩
  obtain ⟨piece, rest, found⟩ := first_found
  obtain ⟨d, left, whole, fits, _⟩ := afterPiece?_cons_inv found
  exact ⟨d, left, whole, fits⟩

theorem denotes_of_acceptsFromFront {p s : List Char}
    (accepted : acceptsFromFront (p.splitOn '*') s = true) : Denotes p s := by
  induction p generalizing s with
  | nil =>
    obtain rfl : s = [] := by
      simpa [List.splitOn_nil, acceptsFromFront, fitsWhole, afterPiece?] using accepted
    exact Denotes.nil
  | cons c p ih =>
    obtain ⟨first, rest, pieces⟩ := List.exists_cons_of_ne_nil (List.splitOn_ne_nil '*' p)
    rw [List.splitOn_cons_eq_if_modifyHead] at accepted
    by_cases star : c = '*'
    · subst star
      rw [if_pos (by decide), pieces] at accepted
      obtain ⟨place, ⟨run, rfl⟩, front⟩ := fromFront_of_acceptsAfterStar accepted
      exact Denotes.star run (ih (pieces ▸ front))
    · rw [if_neg (by simpa using star)] at accepted
      obtain ⟨d, left, rfl, fits⟩ := fits_of_acceptsFromFront accepted
      rw [acceptsFromFront_cons c d _ left fits] at accepted
      by_cases question : c = '?'
      · subst question
        exact Denotes.any d (ih accepted)
      · obtain rfl := fits.resolve_left question
        exact Denotes.same star question (ih accepted)

theorem accepts_iff_denotes (g : Glob) (candidate : String) :
    g.accepts candidate = true ↔ Denotes g.source.toList candidate.toList := by
  rw [accepts_eq]
  exact ⟨denotes_of_acceptsFromFront, acceptsFromFront_of_denotes⟩

theorem accepts_source (g : Glob) : g.accepts g.source = true :=
  (g.accepts_iff_denotes g.source).mpr (denotes_self g.source.toList)

def StandsFor (c : Char) (part : List Char) : Prop :=
  if c = '*' then True else if c = '?' then part.length = 1 else part = [c]

theorem denotes_iff_parts {p s : List Char} :
    Denotes p s ↔ ∃ parts, List.Forall₂ StandsFor p parts ∧ s = parts.flatten := by
  constructor
  · intro denotes
    induction denotes with
    | nil => exact ⟨[], List.Forall₂.nil, rfl⟩
    | star run tail ih =>
      obtain ⟨parts, each, rfl⟩ := ih
      exact ⟨run :: parts, List.Forall₂.cons (by simp [StandsFor]) each, rfl⟩
    | any d tail ih =>
      obtain ⟨parts, each, rfl⟩ := ih
      exact ⟨[d] :: parts, List.Forall₂.cons (by simp [StandsFor]) each, rfl⟩
    | @same c _ _ star question tail ih =>
      obtain ⟨parts, each, rfl⟩ := ih
      exact ⟨[c] :: parts, List.Forall₂.cons (by simp [StandsFor, star, question]) each, rfl⟩
  · rintro ⟨parts, each, rfl⟩
    induction each with
    | nil => exact Denotes.nil
    | @cons c part p parts here each ih =>
      by_cases star : c = '*'
      · subst star
        exact Denotes.star part ih
      · by_cases question : c = '?'
        · subst question
          obtain ⟨d, rfl⟩ := List.length_eq_one_iff.mp (by simpa [StandsFor] using here)
          exact Denotes.any d ih
        · obtain rfl : part = [c] := by simpa [StandsFor, star, question] using here
          exact Denotes.same star question ih

end Glob

theorem glob_accepts_iff {pattern : String} {g : Glob} (compiled : Glob.compile pattern = .ok g)
    (candidate : String) : g.accepts candidate = true ↔
      ∃ parts, List.Forall₂ Glob.StandsFor pattern.toList parts ∧
        candidate.toList = parts.flatten := by
  obtain ⟨rfl, _⟩ := Glob.compile_eq_ok_iff.mp compiled
  rw [g.accepts_iff_denotes, Glob.denotes_iff_parts]

namespace Sample

def tagged : Glob :=
  ⟨"**?[a.b]$", "**?[a.b]$".toList.splitOn '*', rfl, by decide⟩

end Sample

theorem glob_accepts_iff_tagged :
    Glob.compile "**?[a.b]$" = .ok Sample.tagged ∧
      Sample.tagged.accepts "x[a.b]$é\n[a.b]$" = true ∧
      (∃ parts, List.Forall₂ Glob.StandsFor "**?[a.b]$".toList parts ∧
        "x[a.b]$é\n[a.b]$".toList = parts.flatten) ∧
      ¬ ∃ parts, List.Forall₂ Glob.StandsFor "**?[a.b]$".toList parts ∧
        "x[a+b]$".toList = parts.flatten := by
  have compiled : Glob.compile "**?[a.b]$" = .ok Sample.tagged :=
    Glob.compile_eq_ok_iff.mpr ⟨rfl, Sample.tagged.fits⟩
  have accepted : Sample.tagged.accepts "x[a.b]$é\n[a.b]$" = true := by decide
  have refused : ¬ Sample.tagged.accepts "x[a+b]$" = true := by decide
  refine ⟨compiled, accepted, (glob_accepts_iff compiled _).mp accepted, ?_⟩
  intro divided
  exact refused ((glob_accepts_iff compiled _).mpr divided)

end MediaPaths
