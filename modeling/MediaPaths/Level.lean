import MediaPaths.Fault

/-!
Levels: the formats that may stand between the slashes of a rule. A format is not empty and has at
most `maxPlaceholders` placeholders, and its matcher is not too heavy, so two levels are equal
exactly when their formats are.
-/
namespace MediaPaths

structure Level where
  format : String
  nonempty : format ≠ ""
  shallow : (Template.read format).names.length ≤ maxPlaceholders
  fits : (Weight.frame + (Template.read format).weight).Fits
  deriving DecidableEq

namespace Level

def compile (format : String) : Except RuleFault Level :=
  if nonempty : format = "" then .error .emptyLevel
  else if shallow : (Template.read format).names.length ≤ maxPlaceholders then
    if fits : (Weight.frame + (Template.read format).weight).Fits then
      .ok ⟨format, nonempty, shallow, fits⟩
    else .error (.tooHeavy format)
  else .error (.tooManyPlaceholders format)

def template (level : Level) : Template := Template.read level.format

def names (level : Level) : List String := level.template.names

def isLiteral (level : Level) : Bool := level.names.isEmpty

def fit (level : Level) (token : String) : Option (List (String × String)) :=
  level.template.fit token.toList

def render (level : Level) (row : Row) : String := String.ofList (level.template.render row)

theorem compile_eq_ok_iff {format : String} {level : Level} :
    compile format = .ok level ↔ level.format = format ∧ format ≠ "" ∧
      (Template.read format).names.length ≤ maxPlaceholders ∧
      (Weight.frame + (Template.read format).weight).Fits := by
  cases level
  grind [compile]

end Level

end MediaPaths
