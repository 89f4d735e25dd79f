import Mathlib.Data.List.Basic
import MediaPaths.Proofs.Compilation
import MediaPaths.Proofs.Elements

/-!
The grammar of rules. A spec compiles exactly when it is formats with a slash in front of each and
possibly one slash at the end, and every format is one of a level (`Rule.compile_eq_ok_iff`). Any
other spec is refused for the first thing that is wrong with it: its length, its first character, or
the first format that is not one of a level (`Rule.compile_eq_error_iff`).
-/
namespace MediaPaths

namespace Rule

/-- The formats that a spec spells out. What stands behind the last slash is a format of its own
unless it is empty. -/
structure Spells (spec : String) (formats : List String) : Prop where
  slashFree : ∀ f ∈ formats, '/' ∉ f.toList
  written : (spec = slashed formats ∧ formats.getLast? ≠ some "") ∨ spec = slashed formats ++ "/"

/-- The grammar: at least one format, none of them empty. -/
structure Formed (spec : String) (formats : List String) : Prop where
  some_level : formats ≠ []
  filled : ∀ f ∈ formats, f ≠ ""
  slashFree : ∀ f ∈ formats, '/' ∉ f.toList
  written : spec = slashed formats ∨ spec = slashed formats ++ "/"

inductive Refused (spec : String) : RuleFault → Prop where
  | short (short : spec.toList.length < 2) : Refused spec (.tooShort spec)
  | unopened (long : 2 ≤ spec.toList.length) (unopened : spec.toList.head? ≠ some '/') :
      Refused spec (.missingSlash spec)
  | level {front rest : List String} {format : String} {cause : RuleFault}
      (spells : Spells spec (front ++ format :: rest))
      (before : ∀ f ∈ front, ∃ level, Level.compile f = .ok level)
      (refused : Level.compile format = .error cause) : Refused spec (.inLevel spec cause)

section Pieces

variable {spec : String} {formats : List String} {body : List Char}

theorem spells_pieces (opened : spec.toList = '/' :: body) : Spells spec (pieces body) := by
  refine ⟨fun f member => slash_not_mem_piece member, ?_⟩
  have whole : slashed ((body.splitOn '/').map String.ofList) = spec := by
    rw [← String.toList_inj, opened, slashed_splitOn]
  unfold pieces
  dsimp only
  split
  · rename_i closed
    have ends := List.dropLast_append_getLast? _ closed
    rw [← ends, slashed_concat, String.append_empty] at whole
    exact Or.inr whole.symm
  · rename_i filled
    exact Or.inl ⟨whole.symm, filled⟩

theorem pieces_eq_nil_iff : pieces body = [] ↔ body = [] := by
  constructor
  · intro none_left
    have opened : (String.ofList ('/' :: body)).toList = '/' :: body := String.toList_ofList
    have written := (none_left ▸ spells_pieces opened).written
    rcases written with ⟨same, _⟩ | same
    · simp [slashed, same] at opened
    · simpa [slashed, same, eq_comm] using opened
  · rintro rfl
    rfl

theorem Spells.pieces (spells : Spells spec formats) (some_level : formats ≠ []) :
    ∃ body, spec.toList = '/' :: body ∧ body ≠ [] ∧ pieces body = formats := by
  have split : ∃ body, spec.toList = '/' :: body ∧ Rule.pieces body = formats := by
    rcases spells.written with ⟨rfl, filled⟩ | rfl
    · obtain ⟨body, opened, split⟩ := splitOn_slashed some_level spells.slashFree
      exact ⟨body, opened, by simp only [Rule.pieces, split, filled, ↓reduceIte]⟩
    · have slashFree : ∀ f ∈ formats ++ [""], '/' ∉ f.toList := by
        simpa [or_imp, forall_and] using spells.slashFree
      obtain ⟨body, opened, split⟩ := splitOn_slashed (by simp) slashFree
      rw [slashed_concat, String.append_empty] at opened
      exact ⟨body, opened, by simp [Rule.pieces, split]⟩
  obtain ⟨body, opened, rfl⟩ := split
  exact ⟨body, opened, fun empty => some_level (pieces_eq_nil_iff.mpr empty), rfl⟩

theorem Spells.unique (spells : Spells spec formats) (some_level : formats ≠ [])
    {others : List String} (spells' : Spells spec others) (some_level' : others ≠ []) :
    others = formats := by
  obtain ⟨body, opened, _, rfl⟩ := spells.pieces some_level
  obtain ⟨body', opened', _, rfl⟩ := spells'.pieces some_level'
  rw [(List.cons.inj (opened.symm.trans opened')).2]

theorem Formed.spells (formed : Formed spec formats) : Spells spec formats := by
  refine ⟨formed.slashFree, formed.written.imp_left fun same => ⟨same, ?_⟩⟩
  intro empty
  exact formed.filled "" (List.mem_of_getLast? empty) rfl

end Pieces

section Compile

variable {spec : String}

theorem compile_short (short : spec.toList.length < 2) :
    compile spec = .error (.tooShort spec) := by
  rw [compile, if_pos short]

theorem compile_unopened (long : 2 ≤ spec.toList.length) (unopened : spec.toList.head? ≠ some '/') :
    compile spec = .error (.missingSlash spec) := by
  have lead : Text.afterLead? ['/'] spec.toList = none := by
    cases text : spec.toList with
    | nil => rfl
    | cons c rest =>
      rw [text, List.head?_cons, ne_eq, Option.some.injEq] at unopened
      simp [Text.afterLead?, Ne.symm unopened]
  simp only [compile, if_neg (Nat.not_lt.mpr long), lead]

theorem compile_opened {body : List Char} (opened : spec.toList = '/' :: body)
    (some_text : body ≠ []) : compile spec =
      match compileLevels (pieces body) with
      | .error cause => .error (.inLevel spec cause)
      | .ok [] => .error (.noLevels spec)
      | .ok (first :: rest) => .ok ⟨spec, first :: rest, by simp⟩ := by
  have long : ¬ spec.toList.length < 2 := by
    have counted := List.length_pos_iff.mpr some_text
    simp only [opened, List.length_cons]
    omega
  have lead : Text.afterLead? ['/'] spec.toList = some body :=
    Text.afterLead?_eq_some_iff.mpr opened
  cases compiled : compileLevels (pieces body) with
  | error cause => simp only [compile, if_neg long, lead, compiled]
  | ok levels => cases levels <;> simp only [compile, if_neg long, lead, compiled]

theorem shapes (spec : String) : spec.toList.length < 2 ∨
    (2 ≤ spec.toList.length ∧ spec.toList.head? ≠ some '/') ∨
    ∃ body, spec.toList = '/' :: body ∧ body ≠ [] := by
  match spec.toList with
  | [] => exact Or.inl (by simp)
  | [_] => exact Or.inl (by simp)
  | c :: d :: rest =>
    by_cases slash : c = '/'
    · exact Or.inr (Or.inr ⟨d :: rest, by rw [slash], List.cons_ne_nil d rest⟩)
    · exact Or.inr (Or.inl ⟨by simp, by simpa using slash⟩)

theorem compile_eq_ok_iff {rule : Rule} : compile spec = .ok rule ↔
    rule.spec = spec ∧ Spells spec (rule.levels.map Level.format) := by
  constructor
  · intro compiled
    obtain ⟨body, opened, formats, own⟩ := parts_of_compile compiled
    exact ⟨own, formats ▸ spells_pieces opened⟩
  · rintro ⟨rfl, spells⟩
    have some_level : rule.levels.map Level.format ≠ [] := by simpa using rule.nonempty
    obtain ⟨body, opened, some_text, split⟩ := spells.pieces some_level
    rw [compile_opened opened some_text, split, compileLevels_eq_ok_iff.mpr rfl]
    obtain ⟨spec, levels, nonempty⟩ := rule
    cases levels with
    | nil => exact absurd rfl nonempty
    | cons first rest => rfl

theorem compile_eq_error_iff {cause : RuleFault} :
    compile spec = .error cause ↔ Refused spec cause := by
  constructor
  · intro failed
    rcases shapes spec with short | ⟨long, unopened⟩ | ⟨body, opened, some_text⟩
    · obtain rfl := Except.error.inj ((compile_short short).symm.trans failed)
      exact Refused.short short
    · obtain rfl := Except.error.inj ((compile_unopened long unopened).symm.trans failed)
      exact Refused.unopened long unopened
    · rw [compile_opened opened some_text] at failed
      cases made : compileLevels (pieces body) with
      | ok levels =>
        cases levels with
        | nil =>
          have none_left := compileLevels_eq_ok_iff.mp made
          exact absurd (pieces_eq_nil_iff.mp none_left.symm) some_text
        | cons first rest => simp [made] at failed
      | error fault =>
        obtain ⟨front, format, rest, split, before, refused⟩ := compileLevels_eq_error_iff.mp made
        simp only [made, Except.error.injEq] at failed
        obtain rfl := failed
        exact Refused.level (split ▸ spells_pieces opened) before refused
  · intro refused
    cases refused with
    | short short => exact compile_short short
    | unopened long unopened => exact compile_unopened long unopened
    | @level front rest format cause spells before refused =>
      obtain ⟨body, opened, some_text, split⟩ := spells.pieces (by simp)
      have failed := compileLevels_eq_error_iff.mpr ⟨front, format, rest, split, before, refused⟩
      rw [compile_opened opened some_text, failed]

theorem formed_of_compile {rule : Rule} (compiled : compile spec = .ok rule) :
    Formed spec (rule.levels.map Level.format) := by
  have spells := (compile_eq_ok_iff.mp compiled).2
  refine ⟨by simpa using rule.nonempty, ?_, spells.slashFree, spells.written.imp_left And.left⟩
  intro f member
  obtain ⟨level, _, rfl⟩ := List.mem_map.mp member
  exact level.nonempty

theorem exists_levels {formats : List String}
    (each : ∀ f ∈ formats, ∃ level, Level.compile f = .ok level) :
    ∃ levels : List Level, levels.map Level.format = formats := by
  cases made : compileLevels formats with
  | ok levels => exact ⟨levels, compileLevels_eq_ok_iff.mp made⟩
  | error cause =>
    obtain ⟨front, format, rest, rfl, _, refused⟩ := compileLevels_eq_error_iff.mp made
    obtain ⟨level, compiled⟩ := each format (by simp)
    rw [compiled] at refused
    cases refused

theorem compile_of_formed {levels : List Level} (formed : Formed spec (levels.map Level.format)) :
    ∃ rule, compile spec = .ok rule ∧ rule.levels = levels := by
  have nonempty : levels ≠ [] := by simpa using formed.some_level
  exact ⟨⟨spec, levels, nonempty⟩, compile_eq_ok_iff.mpr ⟨rfl, formed.spells⟩, rfl⟩

end Compile

end Rule

theorem rule_grammar (spec : String) :
    ((∃ rule, Rule.compile spec = .ok rule) ↔ ∃ formats, Rule.Formed spec formats ∧
      ∀ f ∈ formats, ∃ level, Level.compile f = .ok level) ∧
    (∀ rule, Rule.compile spec = .ok rule →
      let own := slashed (rule.levels.map Level.format)
      (∀ formats, Rule.Formed spec formats →
        rule.levels.map Level.format = formats ∧ rule.lastIndex + 1 = formats.length) ∧
      (own = spec ∨ own ++ "/" = spec) ∧
      ∃ again, Rule.compile own = .ok again ∧ again.levels = rule.levels) ∧
    (∀ cause, Rule.compile spec = .error cause ↔ Rule.Refused spec cause) ∧
    ∀ cause, Rule.compile spec = .error cause → (∀ s, cause ≠ .noLevels s) ∧
      ∀ (reg : Registry) name, reg.get? name = none → isTemplate spec = true →
        reg.add name spec = .error (.invalidRule cause) := by
  refine ⟨⟨?_, ?_⟩, ?_, fun cause => Rule.compile_eq_error_iff, ?_⟩
  · rintro ⟨rule, compiled⟩
    refine ⟨_, Rule.formed_of_compile compiled, ?_⟩
    intro f member
    obtain ⟨level, _, rfl⟩ := List.mem_map.mp member
    exact ⟨level, Rule.compile_format level⟩
  · rintro ⟨formats, formed, each⟩
    obtain ⟨levels, rfl⟩ := Rule.exists_levels each
    obtain ⟨rule, compiled, _⟩ := Rule.compile_of_formed formed
    exact ⟨rule, compiled⟩
  · intro rule compiled own
    have formed := Rule.formed_of_compile compiled
    refine ⟨?_, ?_, ?_⟩
    · intro formats formed'
      have same := formed'.spells.unique formed'.some_level formed.spells formed.some_level
      have positive := rule.length_pos
      refine ⟨same, ?_⟩
      rw [← same, List.length_map, Rule.lastIndex]
      omega
    · exact formed.written.imp Eq.symm Eq.symm
    · exact Rule.compile_of_formed ⟨formed.some_level, formed.filled, formed.slashFree, Or.inl rfl⟩
  · intro cause failed
    constructor
    · rintro s rfl
      cases Rule.compile_eq_error_iff.mp failed
    · intro reg name fresh template
      have unknown : reg.contains name = false := by
        rw [Registry.contains_eq, fresh, Option.isSome_none]
      simp [Registry.add, unknown, template, failed]

example :
    (Rule.compile "/a/").map (fun rule => rule.levels.map Level.format) = .ok ["a"] ∧
      Rule.compile "/a//" = .error (.inLevel "/a//" .emptyLevel) := by
  decide

end MediaPaths
