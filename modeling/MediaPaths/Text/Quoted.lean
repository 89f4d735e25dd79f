import MediaPaths.Text.Unprintable
import MediaPaths.Text.ExtendingMark

/-!
Quoted text, the form in which values appear in conditions and log lines. A text stands between
double quotes; the quote and the backslash are escaped, and a character that would not show as a
letterform of its own is written by its code point in hexadecimal digits.
-/
namespace MediaPaths.Text

/-- Whether `n` lies in one of the closed ranges, which are in increasing order. -/
def inRanges (n : Nat) : List (Nat × Nat) → Bool
  | [] => false
  | (first, last) :: rest => if n < first then false else n ≤ last || inRanges n rest

def isUnprintable (c : Char) : Bool :=
  let n := c.toNat
  !(0x20 ≤ n && n ≤ 0x7e) && (inRanges n unprintableRanges || inRanges n extendingMarkRanges)

def byCodePoint (c : Char) : List Char :=
  ['\\', 'u', '{'] ++ Nat.toDigits 16 c.toNat ++ ['}']

def escape (c : Char) : List Char :=
  if c = '"' then ['\\', '"']
  else if c = '\\' then ['\\', '\\']
  else if c = '\x00' then ['\\', '0']
  else if c = '\t' then ['\\', 't']
  else if c = '\n' then ['\\', 'n']
  else if c = '\r' then ['\\', 'r']
  else if isUnprintable c then byCodePoint c
  else [c]

def quoted (s : String) : String :=
  String.ofList ('"' :: s.toList.flatMap escape ++ ['"'])

def bracketed (items : List String) : String := "[" ++ String.intercalate ", " items ++ "]"

def quotedList (items : List String) : String := bracketed (items.map quoted)

def quotedPair (pair : String × String) : String :=
  "(" ++ quoted pair.1 ++ ", " ++ quoted pair.2 ++ ")"

end MediaPaths.Text
