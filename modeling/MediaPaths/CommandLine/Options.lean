import MediaPaths.Text.Basic

/-!
The command line: its options, how arguments are read, and what the environment presets. Arguments
are read from left to right; the first one that asks for help or the version, or that is wrong, ends
the reading.
-/
namespace MediaPaths.CommandLine

inductive FileOption where
  | rules
  | library
  deriving DecidableEq, Repr

def FileOption.long : FileOption → String
  | .rules => "--rules"
  | .library => "--library"

inductive Argument where
  | help
  | version
  | color (enabled : Bool)
  | complete
  | verbose
  | awaiting (option : FileOption)
  | file (option : FileOption) (name : String)
  | unknown (text : String)
  | path (text : String)
  deriving DecidableEq, Repr

def dropRepeats (lead : List Char) : Nat → List Char → List Char
  | 0, s => s
  | times + 1, s =>
    match Text.afterLead? lead s with
    | some rest => dropRepeats lead times rest
    | none => s

/-- The value written behind `option=`; the lead may be repeated and is no part of the value. -/
def attached? (option : FileOption) (text : String) : Option String :=
  let lead := option.long.toList ++ ['=']
  match Text.afterLead? lead text.toList with
  | some rest => some (String.ofList (dropRepeats lead rest.length rest))
  | none => none

def Argument.read (text : String) : Argument :=
  if text = "-h" ∨ text = "--help" then .help
  else if text = "-V" ∨ text = "--version" then .version
  else if text = "--color" then .color true
  else if text = "--no-color" then .color false
  else if text = "-c" ∨ text = "--complete" then .complete
  else if text = "-v" ∨ text = "--verbose" then .verbose
  else if text = "-r" ∨ text = "--rules" then .awaiting .rules
  else if text = "-l" ∨ text = "--library" then .awaiting .library
  else
    match attached? .rules text, attached? .library text with
    | some name, _ => .file .rules name
    | none, some name => .file .library name
    | none, none => if text.toList.head? = some '-' then .unknown text else .path text

structure Options where
  rulesFile : String
  libraryFile : Option String
  completing : Bool
  color : Bool
  verbose : Bool
  deriving DecidableEq, Repr

structure Environment where
  rulesFile : Option String
  libraryFile : Option String
  terminal : Bool
  deriving DecidableEq, Repr

def defaultRulesFile : String := "vpaths.conf"

def Environment.options (env : Environment) : Options :=
  ⟨env.rulesFile.getD defaultRulesFile, env.libraryFile, false, env.terminal, false⟩

def Options.setFile (o : Options) : FileOption → String → Options
  | .rules, name => { o with rulesFile := name }
  | .library, name => { o with libraryFile := some name }

inductive UsageFault where
  | missingValue (option : FileOption)
  | unknownOption (text : String)
  | repeatedPath
  | noPath
  deriving DecidableEq, Repr

inductive Request where
  | help
  | version
  | browse (path : String) (options : Options)
  deriving DecidableEq, Repr

def readArguments (o : Options) (path : Option String) : List String → Except UsageFault Request
  | [] =>
    match path with
    | some path => .ok (.browse path o)
    | none => .error .noPath
  | text :: rest =>
    match Argument.read text with
    | .help => .ok .help
    | .version => .ok .version
    | .color enabled => readArguments { o with color := enabled } path rest
    | .complete => readArguments { o with completing := true } path rest
    | .verbose => readArguments { o with verbose := true } path rest
    | .awaiting option =>
      match rest with
      | [] => .error (.missingValue option)
      | name :: rest => readArguments (o.setFile option name) path rest
    | .file option name => readArguments (o.setFile option name) path rest
    | .unknown text => .error (.unknownOption text)
    | .path text =>
      match path with
      | some _ => .error .repeatedPath
      | none => readArguments o (some text) rest

def Request.read (env : Environment) (args : List String) : Except UsageFault Request :=
  readArguments env.options none args

end MediaPaths.CommandLine
