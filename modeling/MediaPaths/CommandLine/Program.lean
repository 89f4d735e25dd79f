import MediaPaths.Browse
import MediaPaths.CommandLine.Options
import MediaPaths.CommandLine.Report
import MediaPaths.RuleFile

/-!
The program: from arguments, environment and files to what is written and the exit code. Help and
version end well; a wrong argument ends with code 2, any other fault with code 1, after whatever was
written before it.
-/
namespace MediaPaths.CommandLine

def version : String := "0.1.0"

def help : String :=
  "vpath " ++ version ++ "

Browse a media library through virtual paths.

Usage:
  vpath [OPTIONS] <//action/elem/...>

Options:
  -r, --rules <file>         Rule file with `name = /template` lines.
                             Default: $VPATH_RULES or " ++ defaultRulesFile ++ "
  -l, --library <file>       Tab-separated library (header line of field
                             names). Default: $VPATH_LIBRARY
  -c, --complete             Complete the path; unknown actions list the
                             matching action names.
  -v, --verbose              Print the match report.
  --color                    Force ANSI color output.
  --no-color                 Disable ANSI color output.
  -h, --help                 Show this help message.
  -V, --version              Print version information.

Set RUST_LOG=vpath=debug to trace the rule walk.

Exit codes:
  0  Success.
  1  Rule, path or library error.
  2  Invalid arguments or missing path.
"

def UsageFault.message : UsageFault → String
  | .missingValue option => "error: " ++ option.long ++ " expects a value"
  | .unknownOption text => "error: unknown option '" ++ text ++ "'"
  | .repeatedPath => "error: path provided multiple times"
  | .noPath => "error: no path provided\n\n" ++ help

structure Exit where
  code : Nat
  stdout : String
  stderr : String
  deriving DecidableEq, Repr

def unlines (lines : List String) : String := String.join (lines.map (· ++ "\n"))

structure Written where
  lines : List String
  fault : Option Fault

def Written.exit (w : Written) : Exit :=
  match w.fault with
  | none => ⟨0, unlines w.lines, ""⟩
  | some fault => ⟨1, unlines w.lines, unlines ["error: " ++ fault.message]⟩

/-- The report where it is asked for or nothing else can be shown, then the lines of the library. -/
def present (o : Options) (path : String) (library : Option Library) (w : Walk) : Written :=
  let report := if o.verbose || library.isNone then report o.color path w else []
  match library with
  | none => ⟨report, none⟩
  | some library =>
    match (if o.completing then library.candidates w else library.list w) with
    | .ok lines => ⟨report ++ lines, none⟩
    | .error fault => ⟨report, some fault⟩

def answer (o : Options) (path : String) (reg : Registry) (library : Option Library) : Written :=
  if o.completing then
    match reg.complete path with
    | .ok (.actions names) => ⟨names.map ("//" ++ ·), none⟩
    | .ok (.walk w) => present o path library w
    | .error fault => ⟨[], some fault⟩
  else
    match reg.resolve path with
    | .ok w => present o path library w
    | .error fault => ⟨[], some fault⟩

abbrev Reader := String → Except ReadFault String

def readLibrary (read : Reader) : Option String → Except Fault (Option Library)
  | none => .ok none
  | some name =>
    match read name with
    | .error cause => .error (.unreadable name cause)
    | .ok text =>
      match Library.read text with
      | .ok library => .ok (some library)
      | .error fault => .error fault

def openPath (o : Options) (read : Reader) (path : String) : Written :=
  match read o.rulesFile with
  | .error cause => ⟨[], some (.unreadable o.rulesFile cause)⟩
  | .ok text =>
    match readLibrary read o.libraryFile with
    | .error fault => ⟨[], some fault⟩
    | .ok library => answer o path (Registry.empty.load text).registry library

def run (env : Environment) (read : Reader) (args : List String) : Exit :=
  match Request.read env args with
  | .ok .help => ⟨0, unlines [help], ""⟩
  | .ok .version => ⟨0, unlines ["vpath " ++ version], ""⟩
  | .ok (.browse path o) => (openPath o read path).exit
  | .error fault => ⟨2, "", unlines [fault.message]⟩

end MediaPaths.CommandLine
