import MediaPaths.Table
import MediaPaths.Text.Basic
import MediaPaths.Weight

/-!
Templates: text with named placeholders. A placeholder is `${`, a name without a newline, and the
first `}`; anything else is literal text. Reading a format and writing it back gives the same text
(`format_read`).

A token need not spell a template out to its end: after each placeholder the rest of the template is
optional. A placeholder takes the shortest text for which the rest fits, where fitting is preferred
to leaving the rest out.
-/
namespace MediaPaths

inductive Template where
  | literal (text : List Char)
  | slot (text : List Char) (name : String) (rest : Template)
  deriving DecidableEq

namespace Template

mutual

/-- Reads outside a placeholder, `text` being the literal so far, backwards. -/
def readText (text : List Char) : List Char → Template
  | [] => .literal text.reverse
  | '$' :: '{' :: rest => readName text [] rest
  | c :: rest => readText (c :: text) rest

/-- Reads after `${`. A newline or the end before any `}` shows that it was literal text. -/
def readName (text name : List Char) : List Char → Template
  | [] => .literal (name ++ '{' :: '$' :: text).reverse
  | c :: rest =>
    if c = '}' then .slot text.reverse (String.ofList name.reverse) (readText [] rest)
    else if c = '\n' then readText (c :: name ++ '{' :: '$' :: text) rest
    else readName text (c :: name) rest

end

def read (format : String) : Template := readText [] format.toList

def names : Template → List String
  | .literal _ => []
  | .slot _ name rest => name :: rest.names

def format : Template → List Char
  | .literal text => text
  | .slot text name rest => text ++ '$' :: '{' :: name.toList ++ '}' :: rest.format

def weight : Template → Weight
  | .literal text => .literal text
  | .slot text _ rest =>
    if rest = .literal [] then .literal text + .capture
    else .literal text + .capture + .optional + rest.weight

/-- A name without a value leaves nothing. Values are copied, never read for placeholders. -/
def render (row : Row) : Template → List Char
  | .literal text => text
  | .slot text name rest => text ++ ((row.get? name).getD "").toList ++ rest.render row

/-- Lengthens a placeholder's text, held backwards in `value`, until `rest` accepts what follows; at
the end of the token the rest may also be left out. -/
def capture (rest : List Char → Option (List (String × String))) (name : String)
    (value : List Char) : List Char → Option (List (String × String))
  | [] =>
    let bound := (name, String.ofList value.reverse)
    match rest [] with
    | some more => some (bound :: more)
    | none => some [bound]
  | c :: s =>
    match rest (c :: s) with
    | some more => some ((name, String.ofList value.reverse) :: more)
    | none => capture rest name (c :: value) s

def fit : Template → List Char → Option (List (String × String))
  | .literal text, s => if s = text then some [] else none
  | .slot text name rest, s =>
    match Text.afterLead? text s with
    | some s => capture rest.fit name [] s
    | none => none

mutual

theorem format_readText (s text : List Char) :
    (readText text s).format = text.reverse ++ s := by
  unfold readText
  split
  · simp [format]
  · rename_i rest
    simpa using format_readName rest text []
  · rename_i c rest _
    simpa using format_readText rest (c :: text)

theorem format_readName (s text name : List Char) :
    (readName text name s).format = text.reverse ++ '$' :: '{' :: name.reverse ++ s := by
  unfold readName
  split
  · simp [format]
  · rename_i c rest
    split
    · rename_i h
      simp [format, h, format_readText rest []]
    · split
      · rename_i h
        simpa [h] using format_readText rest (c :: name ++ '{' :: '$' :: text)
      · simpa using format_readName rest text (c :: name)

end

theorem format_read (format : String) : (read format).format = format.toList := by
  simp [read, format_readText]

end Template

end MediaPaths
