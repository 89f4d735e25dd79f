import MediaPaths.Level

/-!
Rules: `/`, then one or more levels with `/` between them, then possibly one more `/`.
-/
namespace MediaPaths

structure Rule where
  spec : String
  levels : List Level
  nonempty : levels ≠ []
  deriving DecidableEq

namespace Rule

def compileLevels : List String → Except RuleFault (List Level)
  | [] => .ok []
  | format :: rest =>
    match Level.compile format with
    | .error fault => .error fault
    | .ok level =>
      match compileLevels rest with
      | .error fault => .error fault
      | .ok levels => .ok (level :: levels)

/-- The pieces between the slashes; one slash at the end closes the last piece. -/
def pieces (body : List Char) : List String :=
  let all := (body.splitOn '/').map String.ofList
  if all.getLast? = some "" then all.dropLast else all

def compile (spec : String) : Except RuleFault Rule :=
  if spec.toList.length < 2 then .error (.tooShort spec)
  else
    match Text.afterLead? ['/'] spec.toList with
    | none => .error (.missingSlash spec)
    | some body =>
      match compileLevels (pieces body) with
      | .error cause => .error (.inLevel spec cause)
      | .ok [] => .error (.noLevels spec)
      | .ok (first :: rest) => .ok ⟨spec, first :: rest, by simp⟩

def lastIndex (rule : Rule) : Nat := rule.levels.length - 1

theorem length_pos (rule : Rule) : 0 < rule.levels.length :=
  List.length_pos_iff.2 rule.nonempty

def level? (rule : Rule) (index : Nat) : Option Level := rule.levels[index]?

def levelAt (rule : Rule) (index : Nat) : Level :=
  have : min index rule.lastIndex < rule.levels.length := by
    have := rule.length_pos
    simp only [lastIndex]
    omega
  rule.levels[min index rule.lastIndex]

end Rule

end MediaPaths
