import MediaPaths.Fault

/-!
Wildcards. In a pattern `*` stands for any run of characters and `?` for exactly one; every other
character stands for itself. A glob is a pattern small enough to be compiled, cut at its stars into
pieces, and accepts a candidate only as a whole: the first piece at the front, the last at the end,
and each piece in between at the first place behind the one before it.
-/
namespace MediaPaths

structure Features where
  isEmpty : Bool
  hasStar : Bool
  hasQuestion : Bool
  deriving DecidableEq, Repr

namespace Features

def scan (element : String) : Features :=
  ⟨element.toList.isEmpty, element.toList.contains '*', element.toList.contains '?'⟩

def multimatch (f : Features) : Bool := f.hasStar || f.hasQuestion

def bits (f : Features) : Nat := f.isEmpty.toNat + 2 * f.hasStar.toNat + 4 * f.hasQuestion.toNat

end Features

def hasWildcard (s : String) : Bool := (Features.scan s).multimatch

def charWeight (c : Char) : Weight :=
  if c = '*' then .anyText else if c = '?' then .anyChar else .literal [c]

def patternWeight (pattern : String) : Weight :=
  pattern.toList.foldl (fun w c => w + charWeight c) .frame

structure Glob where
  source : String
  pieces : List (List Char)
  cut : pieces = source.toList.splitOn '*'
  fits : (patternWeight source).Fits
  deriving DecidableEq

namespace Glob

def compile (pattern : String) : Except Fault Glob :=
  if fits : (patternWeight pattern).Fits then .ok ⟨pattern, pattern.toList.splitOn '*', rfl, fits⟩
  else .error (.patternTooLarge pattern)

def like (g : Glob) : String :=
  String.ofList (g.source.toList.map fun c => if c = '*' then '%' else if c = '?' then '_' else c)

def after? (c : Char) : List Char → Option (List Char)
  | [] => none
  | d :: s => if c = '?' ∨ c = d then some s else none

def afterPiece? : List Char → List Char → Option (List Char)
  | [], s => some s
  | c :: piece, s =>
    match after? c s with
    | some rest => afterPiece? piece rest
    | none => none

/-- The rest behind the first place where a piece fits. A later place leaves a suffix of that rest,
and a star can take what it leaves out, so no other place needs a try. -/
def afterFirst? (piece : List Char) : List Char → Option (List Char)
  | [] => afterPiece? piece []
  | c :: s =>
    match afterPiece? piece (c :: s) with
    | some rest => some rest
    | none => afterFirst? piece s

def fitsWhole (piece s : List Char) : Bool := afterPiece? piece s == some []

def fitsEnd (piece s : List Char) : Bool :=
  piece.length ≤ s.length && fitsWhole piece (s.drop (s.length - piece.length))

def acceptsAfterStar : List (List Char) → List Char → Bool
  | [], _ => true
  | [last], s => fitsEnd last s
  | piece :: next :: rest, s =>
    match afterFirst? piece s with
    | some s => acceptsAfterStar (next :: rest) s
    | none => false

def accepts (g : Glob) (candidate : String) : Bool :=
  match g.pieces with
  | [] => false
  | [whole] => fitsWhole whole candidate.toList
  | first :: next :: rest =>
    match afterPiece? first candidate.toList with
    | some s => acceptsAfterStar (next :: rest) s
    | none => false

theorem compile_eq_ok_iff {pattern : String} {g : Glob} :
    compile pattern = .ok g ↔ g.source = pattern ∧ (patternWeight pattern).Fits := by
  cases g
  grind [compile]

theorem compile_eq_error_iff {pattern : String} {fault : Fault} :
    compile pattern = .error fault ↔
      ¬ (patternWeight pattern).Fits ∧ fault = .patternTooLarge pattern := by
  by_cases fits : (patternWeight pattern).Fits <;> simp [compile, fits, eq_comm]

end Glob

end MediaPaths
