import MediaPaths.Registry
import MediaPaths.Text.Basic

/-!
Rule files: one rule a line, written `name = spec`. Blank lines and lines that start with `#` are
passed over, a line without ` = ` is ignored, and a rule that cannot be registered is skipped, so
one bad line leaves the others alone.
-/
namespace MediaPaths

inductive RuleLine where
  | passedOver
  | ignored (text : String)
  | rule (name spec : String)
  deriving DecidableEq, Repr

def RuleLine.read (line : String) : RuleLine :=
  let text := Text.trimChars line.toList
  if text = [] ∨ text.head? = some '#' then .passedOver
  else
    match Text.cut? [' ', '=', ' '] text with
    | none => .ignored (String.ofList text)
    | some (name, spec) =>
      .rule (String.ofList (Text.trimChars name)) (String.ofList (Text.trimChars spec))

/-- What loading a rule file led to; the skipped rules come with the numbers of their lines. -/
structure Loading where
  registry : Registry
  loaded : Nat
  skipped : List (Nat × Fault)
  events : List Event
  deriving DecidableEq

namespace Loading

def done (reg : Registry) : Loading := ⟨reg, 0, [], []⟩

def note (l : Loading) (events : List Event) : Loading := { l with events := events ++ l.events }

def count (l : Loading) : Loading := { l with loaded := l.loaded + 1 }

def skip (l : Loading) (line : Nat) (fault : Fault) : Loading :=
  { l with skipped := (line, fault) :: l.skipped }

@[simp] theorem registry_note (l : Loading) (events : List Event) :
    (l.note events).registry = l.registry := rfl

@[simp] theorem registry_count (l : Loading) : l.count.registry = l.registry := rfl

@[simp] theorem registry_skip (l : Loading) (line : Nat) (fault : Fault) :
    (l.skip line fault).registry = l.registry := rfl

end Loading

namespace Registry

def loadLines (reg : Registry) (number : Nat) : List String → Loading
  | [] => .done reg
  | line :: rest =>
    match RuleLine.read line with
    | .passedOver => reg.loadLines (number + 1) rest
    | .ignored text => (reg.loadLines (number + 1) rest).note [.ignoredLine number text]
    | .rule name spec =>
      match reg.add name spec with
      | .ok reg' =>
        ((reg'.loadLines (number + 1) rest).count).note (reg.addEvents name spec)
      | .error fault =>
        ((reg.loadLines (number + 1) rest).skip number fault).note
          (reg.addEvents name spec ++ [.skippedRule number fault])

def load (reg : Registry) (text : String) : Loading :=
  let l := reg.loadLines 1 (Text.lines text)
  { l with events := l.events ++ [.loadedRules l.loaded l.skipped.length] }

end Registry

end MediaPaths
