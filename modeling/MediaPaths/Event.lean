import MediaPaths.Walk

/-!
What the library reports to its log while it works, and the wording of each report.
-/
namespace MediaPaths

inductive Severity where
  | debug
  | warn
  deriving DecidableEq, Repr

def Severity.label : Severity → String
  | .debug => "DEBUG"
  | .warn => "WARN"

inductive Event where
  | compiling (name spec : String)
  | aliasing (name target : String)
  | resolving (path action remainder : String)
  | walking (step : Step)
  | ignoredLine (line : Nat) (text : String)
  | skippedRule (line : Nat) (fault : Fault)
  | loadedRules (loaded skipped : Nat)
  | suggesting (action : String)
  | loadedLibrary (entries : Nat) (columns : List String)
  | listed (rows lines : Nat) (level : Level)
  deriving DecidableEq

def Outcome.text : Outcome → String
  | .noElement => "has no element, stopping"
  | .multimatch element => "multimatch on '" ++ element ++ "'"
  | .unspecified => "left unspecified"
  | .bound values _ => "bound " ++ Text.bracketed (values.map Text.quotedPair)
  | .mismatch element _ => "does not match '" ++ element ++ "'"

namespace Event

def severity : Event → Severity
  | .skippedRule _ _ => .warn
  | _ => .debug

def message : Event → String
  | .compiling name spec => "[registry] compiling rule '" ++ name ++ "' = " ++ spec
  | .aliasing name target => "[registry] aliasing '" ++ name ++ "' to '" ++ target ++ "'"
  | .resolving path action remainder =>
    "[registry] '" ++ path ++ "' -> action '" ++ action ++ "', remainder '" ++ remainder ++ "'"
  | .walking step =>
    "[walk] level " ++ toString step.index ++ " '" ++ step.level.format ++ "' " ++ step.outcome.text
  | .ignoredLine line text => "[loader] line " ++ toString line ++ " ignored: " ++ Text.quoted text
  | .skippedRule line fault => "line " ++ toString line ++ ": " ++ fault.message
  | .loadedRules loaded skipped =>
    "[loader] " ++ toString loaded ++ " rules loaded, " ++ toString skipped ++ " skipped"
  | .suggesting action => "[complete] unknown action '" ++ action ++ "', suggesting names"
  | .loadedLibrary entries columns =>
    "[library] " ++ toString entries ++ " entries, columns " ++ Text.quotedList columns
  | .listed rows lines level =>
    "[browse] " ++ toString rows ++ " rows, " ++ toString lines ++ " lines for level '" ++
      level.format ++ "'"

end Event

end MediaPaths
