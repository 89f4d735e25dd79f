import MediaPaths.CommandLine.Folder
import MediaPaths.CommandLine.Program

/-!
The command line at work: reads the environment and the files that the arguments name, and writes
what the program answers.
-/
namespace MediaPaths.CommandLine

/-- The number of an operating system's fault, which may be reported with its sign turned. -/
def faultNumber (code : UInt32) : UInt32 := min code (0 - code)

def readFault (fault : IO.Error) : ReadFault :=
  match fault with
  | .noFileOrDirectory _ _ _ => .notFound
  | .inappropriateType _ code _ => if faultNumber code = 21 then .isDirectory else .notDirectory
  | .invalidArgument _ code _ =>
    if faultNumber code = 36 then .nameTooLong else .refused (toString fault)
  | .permissionDenied _ _ _ => .refused "Permission denied (os error 13)"
  | _ => .refused (toString fault)

def readFile (name : String) : IO (Except ReadFault String) := do
  if name.isEmpty then return .error .notFound
  try
    return (FileTree.file (← IO.FS.readBinFile name)).text
  catch fault =>
    return .error (readFault fault)

def readFiles : List String → IO Reader
  | [] => return fun _ => .error .notFound
  | name :: rest => do
    let content ← readFile name
    let others ← readFiles rest
    return fun asked => if asked = name then content else others asked

def Request.files : Except UsageFault Request → List String
  | .ok (.browse _ o) => o.rulesFile :: o.libraryFile.toList
  | _ => []

def runHere (args : List String) : IO UInt32 := do
  let stdout ← IO.getStdout
  let env : Environment :=
    ⟨← IO.getEnv "VPATH_RULES", ← IO.getEnv "VPATH_LIBRARY", ← stdout.isTty⟩
  let reader ← readFiles (Request.files (Request.read env args))
  let result := run env reader args
  stdout.putStr result.stdout
  stdout.flush
  (← IO.getStderr).putStr result.stderr
  return result.code.toUInt32

end MediaPaths.CommandLine

def main (args : List String) : IO UInt32 := MediaPaths.CommandLine.runHere args
