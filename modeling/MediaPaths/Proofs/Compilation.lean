import MediaPaths.Registry

/-!
What a compiled rule is made of: the spec starts with a slash, and the formats of the levels are the
pieces between its slashes, none of which holds a slash or is empty.
-/
namespace MediaPaths.Rule

theorem compile_format (level : Level) : Level.compile level.format = .ok level :=
  Level.compile_eq_ok_iff.mpr ⟨rfl, level.nonempty, level.shallow, level.fits⟩

theorem compileLevels_eq_ok_iff {formats : List String} {levels : List Level} :
    compileLevels formats = .ok levels ↔ levels.map Level.format = formats := by
  constructor
  · intro compiled
    induction formats generalizing levels with
    | nil =>
      obtain rfl := Except.ok.inj compiled
      rfl
    | cons format rest ih =>
      cases first : Level.compile format with
      | error fault => simp [compileLevels, first] at compiled
      | ok level =>
        cases others : compileLevels rest with
        | error fault => simp [compileLevels, first, others] at compiled
        | ok more =>
          simp only [compileLevels, first, others, Except.ok.injEq] at compiled
          obtain rfl := compiled
          rw [List.map_cons, ih others, (Level.compile_eq_ok_iff.mp first).1]
  · rintro rfl
    induction levels with
    | nil => rfl
    | cons level rest ih => simp [compileLevels, compile_format, ih]

theorem compileLevels_eq_error_iff {formats : List String} {cause : RuleFault} :
    compileLevels formats = .error cause ↔ ∃ front format rest,
      formats = front ++ format :: rest ∧ (∀ f ∈ front, ∃ level, Level.compile f = .ok level) ∧
        Level.compile format = .error cause := by
  constructor
  · intro failed
    induction formats with
    | nil => cases failed
    | cons format rest ih =>
      cases first : Level.compile format with
      | error fault =>
        simp only [compileLevels, first, Except.error.injEq] at failed
        exact ⟨[], format, rest, rfl, by simp, failed ▸ first⟩
      | ok level =>
        cases others : compileLevels rest with
        | ok levels => simp [compileLevels, first, others] at failed
        | error fault =>
          simp only [compileLevels, first, others, Except.error.injEq] at failed
          obtain ⟨front, bad, behind, rfl, before, refused⟩ := ih (failed ▸ others)
          refine ⟨format :: front, bad, behind, rfl, ?_, refused⟩
          simpa using ⟨⟨level, first⟩, before⟩
  · rintro ⟨front, format, rest, rfl, before, refused⟩
    induction front with
    | nil => simp [compileLevels, refused]
    | cons f front ih =>
      obtain ⟨level, first⟩ := before f (by simp)
      have further := ih fun g member => before g (by simp [member])
      simp [compileLevels, first, further]

theorem not_mem_of_mem_splitOn {separator : Char} {s piece : List Char}
    (member : piece ∈ s.splitOn separator) : separator ∉ piece := by
  induction s generalizing piece with
  | nil =>
    obtain rfl : piece = [] := by simpa [List.splitOn_nil] using member
    simp
  | cons c s ih =>
    rw [List.splitOn_cons_eq_if_modifyHead] at member
    by_cases same : c = separator
    · simp only [same, beq_self_eq_true, ↓reduceIte, List.mem_cons] at member
      rcases member with rfl | later
      · simp
      · exact ih later
    · obtain ⟨first, rest, split⟩ := List.exists_cons_of_ne_nil (List.splitOn_ne_nil separator s)
      rw [split] at ih
      simp only [beq_iff_eq, same, ↓reduceIte, split, List.modifyHead_cons, List.mem_cons]
        at member
      rcases member with rfl | later
      · simpa [Ne.symm same] using ih (by simp)
      · exact ih (by simp [later])

theorem slash_not_mem_piece {body : List Char} {piece : String} (member : piece ∈ pieces body) :
    '/' ∉ piece.toList := by
  have whole : piece ∈ (body.splitOn '/').map String.ofList := by
    unfold pieces at member
    dsimp only at member
    split at member
    · exact (List.dropLast_sublist _).subset member
    · exact member
  obtain ⟨chars, inside, rfl⟩ := List.mem_map.mp whole
  rw [String.toList_ofList]
  exact not_mem_of_mem_splitOn inside

theorem parts_of_compile {spec : String} {rule : Rule} (compiled : compile spec = .ok rule) :
    ∃ body, spec.toList = '/' :: body ∧ rule.levels.map Level.format = pieces body ∧
      rule.spec = spec := by
  unfold compile at compiled
  split at compiled
  · cases compiled
  · cases opened : Text.afterLead? ['/'] spec.toList with
    | none => simp [opened] at compiled
    | some body =>
      refine ⟨body, Text.afterLead?_eq_some_iff.mp opened, ?_⟩
      cases made : compileLevels (pieces body) with
      | error cause => simp [opened, made] at compiled
      | ok levels =>
        cases levels with
        | nil => simp [opened, made] at compiled
        | cons first rest =>
          simp only [opened, made, Except.ok.injEq] at compiled
          obtain rfl := compiled
          exact ⟨compileLevels_eq_ok_iff.mp made, rfl⟩

theorem formats_of_compile {spec : String} {rule : Rule} (compiled : compile spec = .ok rule) :
    ∀ level ∈ rule.levels, level.format ≠ "" ∧ '/' ∉ level.format.toList := by
  obtain ⟨body, _, formats, _⟩ := parts_of_compile compiled
  intro level member
  have piece : level.format ∈ pieces body := by
    rw [← formats]
    exact List.mem_map.mpr ⟨level, member, rfl⟩
  exact ⟨level.nonempty, slash_not_mem_piece piece⟩

end MediaPaths.Rule
