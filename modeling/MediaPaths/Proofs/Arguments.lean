import MediaPaths.CommandLine.Options

/-!
Arguments read in turn. The reader carries the options and possibly a path; what some arguments make of
them does not depend on the arguments behind (`Turns`), so turns can be put together. Arguments that
were read to their end turn the options in some way (`exists_turns`), whatever follows them.
-/
namespace MediaPaths.CommandLine

/-- Reading some arguments turns what is known into something else, whatever follows them. -/
def Turns (o : Options) (path : Option String) (args : List String) (o' : Options)
    (path' : Option String) : Prop :=
  ∀ back, readArguments o path (args ++ back) = readArguments o' path' back

section Turns

variable {o o' o'' : Options} {path path' path'' : Option String}

theorem Turns.nil : Turns o path [] o path := fun _ => rfl

theorem Turns.append {front back : List String} (first : Turns o path front o' path')
    (second : Turns o' path' back o'' path'') : Turns o path (front ++ back) o'' path'' := by
  intro rest
  rw [List.append_assoc, first, second]

theorem Turns.cons {text : String} {rest : List String} (first : Turns o path [text] o' path')
    (second : Turns o' path' rest o'' path'') : Turns o path (text :: rest) o'' path'' :=
  first.append second

def Argument.turn? (o : Options) (path : Option String) :
    Argument → Option (Options × Option String)
  | .color enabled => some ({ o with color := enabled }, path)
  | .complete => some ({ o with completing := true }, path)
  | .verbose => some ({ o with verbose := true }, path)
  | .file option name => some (o.setFile option name, path)
  | .path text => if path = none then some (o, some text) else none
  | .help | .version | .awaiting _ | .unknown _ => none

theorem turns_one {text : String} {argument : Argument} (read : Argument.read text = argument)
    (turn : argument.turn? o path = some (o', path')) : Turns o path [text] o' path' := by
  intro back
  rw [List.singleton_append, readArguments, read]
  cases argument with
  | help | version | awaiting option | unknown text => simp [Argument.turn?] at turn
  | color enabled | complete | verbose | file option name =>
    obtain ⟨rfl, rfl⟩ := Prod.mk.inj (Option.some.inj turn)
    rfl
  | path text =>
    cases path with
    | some known => simp [Argument.turn?] at turn
    | none =>
      obtain ⟨rfl, rfl⟩ := Prod.mk.inj (Option.some.inj turn)
      rfl

theorem turns_value {text : String} {option : FileOption}
    (read : Argument.read text = .awaiting option) (value : String) :
    Turns o path [text, value] (o.setFile option value) path := by
  intro back
  rw [List.cons_append, List.singleton_append, readArguments, read]

end Turns

/-- The reading came to the end of the arguments: none asked for help or the version, none was wrong,
and no option was left without its value. Only a path may be missing. -/
def ReachedEnd : Except UsageFault Request → Prop
  | .ok (.browse _ _) => True
  | .error .noPath => True
  | _ => False

theorem exists_turns {o : Options} {path : Option String} {front : List String}
    (ended : ReachedEnd (readArguments o path front)) :
    ∃ o' path', Turns o path front o' path' := by
  fun_induction readArguments o path front with
  | case1 o path => exact ⟨o, some path, Turns.nil⟩
  | case2 o => exact ⟨o, none, Turns.nil⟩
  -- Help, version, a missing value, an unknown option or a second path ended the reading.
  | case3 | case4 | case8 | case11 | case12 => exact ended.elim
  | case5 o path text rest enabled read ih | case6 o path text rest read ih
  | case7 o path text rest read ih | case10 o path text rest option name read ih
  | case13 o text rest name read ih =>
    obtain ⟨o', path', later⟩ := ih ended
    exact ⟨o', path', (turns_one read rfl).cons later⟩
  | case9 o path text option read value rest ih =>
    obtain ⟨o', path', later⟩ := ih ended
    exact ⟨o', path', (turns_value read value).append later⟩

def words : List String :=
  ["-h", "--help", "-V", "--version", "--color", "--no-color", "-c", "--complete", "-v", "--verbose",
    "-r", "--rules", "-l", "--library"]

theorem read_of_not_word {text : String} (other : text ∉ words) :
    Argument.read text =
      match attached? .rules text, attached? .library text with
      | some name, _ => .file .rules name
      | none, some name => .file .library name
      | none, none => if text.toList.head? = some '-' then .unknown text else .path text := by
  simp only [words, List.mem_cons, List.not_mem_nil, or_false, not_or] at other
  cases rules : attached? .rules text with
  | some name => simp only [Argument.read, other, or_self, ↓reduceIte, rules]
  | none =>
    cases library : attached? .library text with
    | some name => simp only [Argument.read, other, or_self, ↓reduceIte, rules, library]
    | none => simp only [Argument.read, other, or_self, ↓reduceIte, rules, library]

def FileOption.short : FileOption → String
  | .rules => "-r"
  | .library => "-l"

theorem read_long (option : FileOption) : Argument.read option.long = .awaiting option := by
  cases option <;> decide

theorem read_short (option : FileOption) : Argument.read option.short = .awaiting option := by
  cases option <;> decide

theorem read_path {text : String} (plain : text.toList.head? ≠ some '-') :
    Argument.read text = .path text := by
  have dashed : ∀ word ∈ words, word.toList.head? = some '-' := by decide
  have unattached : ∀ option, attached? option text = none := by
    intro option
    have absent : Text.afterLead? (option.long.toList ++ ['=']) text.toList = none := by
      cases found : Text.afterLead? (option.long.toList ++ ['=']) text.toList with
      | none => rfl
      | some rest =>
        rw [Text.afterLead?_eq_some_iff] at found
        cases option <;> exact absurd (congrArg List.head? found) plain
    simp only [attached?, absent]
  rw [read_of_not_word fun member => plain (dashed text member)]
  simp only [unattached, plain, ↓reduceIte]

end MediaPaths.CommandLine
