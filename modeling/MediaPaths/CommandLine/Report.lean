import MediaPaths.Walk

/-!
The report on a walk: the rule with the levels passed, the bindings, and where the walk stands.
Pieces of the report have roles, and each role one color.
-/
namespace MediaPaths.CommandLine

inductive Role where
  | title
  | heading
  | spec
  | field
  | level
  | active
  | warning
  | value
  | muted
  deriving DecidableEq, Repr

def Role.style : Role → String
  | .title => "\x1b[1;36m"
  | .heading => "\x1b[90m"
  | .spec | .field => "\x1b[34m"
  | .level => "\x1b[36m"
  | .active => "\x1b[32m"
  | .warning => "\x1b[33m"
  | .value => "\x1b[1m"
  | .muted => "\x1b[2m"

def paint (color : Bool) (role : Role) (text : String) : String :=
  if color then role.style ++ text ++ "\x1b[0m" else text

def heading (color : Bool) (title : String) : List String :=
  ["", paint color .heading ("━━━ " ++ title ++ " ━━━")]

def levelText (color : Bool) (level : Level) : String := paint color .level level.format

def marker (color : Bool) (position : Option Nat) (index : Nat) : String :=
  match position with
  | none => paint color .muted "·"
  | some p =>
    if p = index then paint color .active "▶"
    else if index < p then paint color .muted "✓"
    else paint color .muted "·"

def ruleLines (color : Bool) (w : Walk) : List String :=
  ("  " ++ paint color .spec w.rule.spec) ::
    w.rule.levels.zipIdx.map fun (level, index) =>
      "  " ++ marker color w.position index ++ " " ++
        paint color .heading ("[" ++ toString index ++ "]") ++ " " ++ levelText color level

def bindingLines (color : Bool) (w : Walk) : List String :=
  (if w.bindings.isEmpty then [paint color .muted "  No values bound"] else []) ++
    (w.bindings.entries.map fun (name, value) =>
      "  " ++ paint color .field name ++ " " ++ paint color .muted "=" ++ " " ++
        paint color .value value) ++
    match w.pending with
    | some token => ["  " ++ paint color .warning "multimatch:" ++ " " ++ paint color .value token]
    | none => []

def walkLines (color : Bool) (w : Walk) : List String :=
  let current :=
    match w.current with
    | some level => levelText color level
    | none => paint color .muted "-"
  let full := if w.isFull then paint color .active "yes" else paint color .muted "no"
  let filter :=
    match w.filter with
    | .ok filter => paint color .active filter.text
    | .error fault => paint color .warning fault.message
  ["  current: " ++ current ++ "  │  next: " ++ levelText color w.next ++ "  │  full: " ++ full,
    "  browse:  " ++ levelText color w.browseLevel,
    "  fields:  " ++ paint color .muted (String.intercalate ", " w.fields),
    "  filter:  " ++ filter]

def report (color : Bool) (path : String) (w : Walk) : List String :=
  ["", paint color .title ("⚙  Resolving: \"" ++ path ++ "\"")] ++
    heading color "Rule" ++ ruleLines color w ++
    heading color "Bindings" ++ bindingLines color w ++
    heading color "Walk" ++ walkLines color w ++ [""]

end MediaPaths.CommandLine
