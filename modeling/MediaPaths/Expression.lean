import MediaPaths.Template

/-!
The regular expression of a template, as text. A placeholder is a lazy capture and what follows it
is an optional group, so every placeholder nests its successors three levels deeper. An expression
nested more than `maxDepth` levels is refused with a complaint that marks where it becomes too deep.
-/
namespace MediaPaths

def maxDepth : Nat := 250

/-- The whole is one level deep, and then each placeholder needs three. -/
def maxPlaceholders : Nat := (maxDepth - 1) / 3

namespace Template

def special : List Char :=
  ['\\', '.', '+', '*', '?', '(', ')', '|', '[', ']', '\x7b', '\x7d', '^', '$', '#', '&', '-', '~']

def escaped (text : List Char) : List Char :=
  text.flatMap fun c => if special.contains c then ['\\', c] else [c]

def beginning : List Char := ['(', '?', 's', ')', '^']

def captured : List Char := ['(', '.', '*', '?', ')']

def opened : List Char := ['(', '?', ':']

/-- The expression up to where its groups close, all at the end. -/
def openings : Template → List Char
  | .literal text => escaped text
  | .slot text _ rest =>
    escaped text ++ captured ++ (if rest = .literal [] then [] else opened ++ rest.openings)

def groups : Template → Nat
  | .literal _ => 0
  | .slot _ _ rest => if rest = .literal [] then 0 else rest.groups + 1

def expression (template : Template) : List Char :=
  beginning ++ template.openings ++ (List.replicate template.groups [')', '?']).flatten ++ ['$']

/-- Where the capture after the first `n` begins in `openings`, and its width. A capture that is all
of its group takes no level for a sequence, so what is too deep is the repetition inside it. -/
def mark : Nat → Template → Nat × Nat
  | _, .literal _ => (0, 0)
  | 0, .slot text _ rest =>
    if text = [] ∧ rest = .literal [] then (1, captured.length - 2)
    else ((escaped text).length, captured.length)
  | n + 1, .slot text _ rest =>
    let (start, width) := mark n rest
    ((escaped text).length + captured.length + opened.length + start, width)

def complaint (template : Template) : String :=
  let (start, width) := template.mark maxPlaceholders
  let indent := List.replicate 4 ' '
  "regex parse error:\n" ++ String.ofList (indent ++ template.expression) ++ "\n" ++
    String.ofList (indent ++ List.replicate (beginning.length + start) ' ' ++
      List.replicate width '^') ++
    "\nerror: exceed the maximum number of nested parentheses/brackets (" ++ toString maxDepth ++
    ")"

end Template

end MediaPaths
