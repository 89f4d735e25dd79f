/-!
Texts as lists of characters. `afterLead?` takes a text off the front and `cut?` splits at the first
occurrence of one. A character is blank when it has the Unicode property White_Space; trimming
removes the blanks at both ends and touches nothing between them. Every newline ends a line and takes
with it one carriage return that stands right before it; what follows the last newline is a line of
its own unless it is empty.
-/
namespace MediaPaths.Text

def afterLead? : List Char → List Char → Option (List Char)
  | [], s => some s
  | _ :: _, [] => none
  | a :: lead, c :: s => if a = c then afterLead? lead s else none

theorem afterLead?_eq_some_iff {lead s rest : List Char} :
    afterLead? lead s = some rest ↔ s = lead ++ rest := by
  induction lead generalizing s with
  | nil => simp [afterLead?]
  | cons a lead ih =>
    cases s with
    | nil => simp [afterLead?]
    | cons c s =>
      by_cases h : a = c
      · simp [afterLead?, h, ih]
      · simp [afterLead?, h, Ne.symm h]

theorem afterLead?_append (lead rest : List Char) : afterLead? lead (lead ++ rest) = some rest :=
  afterLead?_eq_some_iff.2 rfl

/-- Splits at the first occurrence of `sep`, `before` being the text already passed, backwards. -/
def cutFrom (sep before : List Char) : List Char → Option (List Char × List Char)
  | [] => if sep = [] then some (before.reverse, []) else none
  | c :: s =>
    match afterLead? sep (c :: s) with
    | some rest => some (before.reverse, rest)
    | none => cutFrom sep (c :: before) s

def cut? (sep s : List Char) : Option (List Char × List Char) := cutFrom sep [] s

def isBlank (c : Char) : Bool :=
  let n := c.toNat
  (0x9 ≤ n && n ≤ 0xd) || n == 0x20 || n == 0x85 || n == 0xa0 || n == 0x1680 ||
    (0x2000 ≤ n && n ≤ 0x200a) || n == 0x2028 || n == 0x2029 || n == 0x202f || n == 0x205f ||
    n == 0x3000

def trimEnd (s : List Char) : List Char := (s.reverse.dropWhile isBlank).reverse

def trimChars (s : List Char) : List Char := trimEnd (s.dropWhile isBlank)

def trim (s : String) : String := String.ofList (trimChars s.toList)

def dropReturn : List Char → List Char
  | [] => []
  | c :: line => if c = '\r' then line else c :: line

/-- The lines of the rest of a text, `line` being the current line so far, backwards. -/
def linesFrom (line : List Char) : List Char → List (List Char)
  | [] => if line = [] then [] else [line.reverse]
  | c :: rest =>
    if c = '\n' then (dropReturn line).reverse :: linesFrom [] rest
    else linesFrom (c :: line) rest

def lines (s : String) : List String := (linesFrom [] s.toList).map String.ofList

theorem linesFrom_append (a b line : List Char) :
    linesFrom line (a ++ '\n' :: b) = linesFrom line (a ++ ['\n']) ++ linesFrom [] b := by
  induction a generalizing line with
  | nil => simp [linesFrom]
  | cons c a ih => by_cases h : c = '\n' <;> simp [linesFrom, h, ih]

end MediaPaths.Text
