/-!
The weight of a compiled matcher: how much memory it takes, in bytes. A matcher is two automata, of
which one reads a text forwards and the other backwards, and its weight is the sum over its parts. A
state takes 32 bytes and each way out of a branching state 4. A matcher can be compiled when neither
automaton passes `Weight.limit`.
-/
namespace MediaPaths

structure Weight where
  forwards : Nat
  backwards : Nat
  deriving DecidableEq, Repr

namespace Weight

def limit : Nat := 10485760

instance : Add Weight := ⟨fun a b => ⟨a.forwards + b.forwards, a.backwards + b.backwards⟩⟩

/-- The two ends of the text and the accepting state; forwards also the marks of the whole match. -/
def frame : Weight := ⟨192, 128⟩

def literal (text : List Char) : Weight :=
  let bytes := text.foldl (fun n c => n + c.utf8Size) 0
  ⟨32 * bytes, 32 * bytes⟩

/-- Any one character. Forwards the encodings share their last bytes, backwards nothing is shared. -/
def anyChar : Weight := ⟨416, 964⟩

def anyText : Weight := anyChar + ⟨40, 40⟩

def capture : Weight := anyText + ⟨64, 0⟩

def optional : Weight := ⟨72, 72⟩

def Fits (w : Weight) : Prop := w.forwards ≤ limit ∧ w.backwards ≤ limit

instance (w : Weight) : Decidable w.Fits := inferInstanceAs (Decidable (_ ∧ _))

def complaint : String :=
  "Compiled regex exceeds size limit of " ++ toString limit ++ " bytes."

end Weight

end MediaPaths
