import MediaPaths.Expression

/-!
What can go wrong, as causes: `RuleFault` for a rule that is not well formed, `Fault` for everything
the library reports. Each has one wording, in `RuleFault.reason` and `Fault.message`. A recoverable
fault spoils one rule of a rule file and leaves the others alone.
-/
namespace MediaPaths

/-- Entries are numbered from one in 32 bits. -/
def maxId : Nat := UInt32.size - 1

inductive RuleFault where
  | emptyLevel
  | tooManyPlaceholders (format : String)
  | tooHeavy (format : String)
  | tooShort (spec : String)
  | missingSlash (spec : String)
  | noLevels (spec : String)
  | inLevel (spec : String) (cause : RuleFault)
  deriving DecidableEq, Repr

inductive ReadFault where
  | notFound
  | isDirectory
  | notDirectory
  | nameTooLong
  | notText
  | refused (reason : String)
  deriving DecidableEq, Repr

inductive Fault where
  | duplicateRule (name : String)
  | undefinedTarget (name target : String)
  | invalidRule (cause : RuleFault)
  | notVirtualPath (path : String)
  | unknownAction (action : String)
  | patternTooLarge (pattern : String)
  | raggedLine (line columns cells : Nat)
  | tooManyEntries (line : Nat)
  | unreadable (path : String) (cause : ReadFault)
  deriving DecidableEq, Repr

def RuleFault.reason : RuleFault → String
  | .emptyLevel => "empty level format"
  | .tooManyPlaceholders format =>
    "level '" ++ format ++ "' does not compile: " ++ (Template.read format).complaint
  | .tooHeavy format => "level '" ++ format ++ "' does not compile: " ++ Weight.complaint
  | .tooShort spec => "empty rule '" ++ spec ++ "'"
  | .missingSlash spec => "rule '" ++ spec ++ "' must start with '/'"
  | .noLevels spec => "rule '" ++ spec ++ "' has no levels"
  | .inLevel spec cause => "rule '" ++ spec ++ "': Invalid rule: " ++ cause.reason

def ReadFault.reason : ReadFault → String
  | .notFound => "No such file or directory (os error 2)"
  | .isDirectory => "Is a directory (os error 21)"
  | .notDirectory => "Not a directory (os error 20)"
  | .nameTooLong => "File name too long (os error 36)"
  | .notText => "stream did not contain valid UTF-8"
  | .refused reason => reason

def Fault.message : Fault → String
  | .duplicateRule name => "Duplicate rule '" ++ name ++ "' ignored!"
  | .undefinedTarget name target =>
    "Rule '" ++ name ++ "' references undefined rule '" ++ target ++ "'"
  | .invalidRule cause => "Invalid rule: " ++ cause.reason
  | .notVirtualPath path => "Not a valid virtual path: '" ++ path ++ "'"
  | .unknownAction action => "Invalid action '" ++ action ++ "'!"
  | .patternTooLarge pattern =>
    "Invalid wildcard pattern (" ++ toString pattern.utf8ByteSize ++
      " bytes): " ++ Weight.complaint
  | .raggedLine line columns cells =>
    "Library line " ++ toString line ++ ": expected " ++ toString columns ++ " columns, found " ++
      toString cells
  | .tooManyEntries line =>
    "Library line " ++ toString line ++ ": more than " ++ toString maxId ++ " entries"
  | .unreadable path cause => "Failed to read '" ++ path ++ "': " ++ cause.reason

def Fault.recoverable : Fault → Bool
  | .duplicateRule _ | .undefinedTarget _ _ | .invalidRule _ => true
  | _ => false

end MediaPaths
