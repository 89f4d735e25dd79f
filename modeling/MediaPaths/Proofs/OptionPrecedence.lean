import MediaPaths.Proofs.Arguments

/-!
Which setting decides. Settings are read one after the other, each in its short or its long spelling,
and each changes one option (`turns_settings`). So an option has the value of the last setting for it,
before that of the environment and the default (`foldl_set_last`), and a flag is on when it is set
anywhere (`isOn_settings_iff`). The path may stand wherever it likes among the settings.
-/
namespace MediaPaths.CommandLine

inductive Flag where
  | complete
  | verbose
  deriving DecidableEq, Repr

def Flag.long : Flag → String
  | .complete => "--complete"
  | .verbose => "--verbose"

def Flag.short : Flag → String
  | .complete => "-c"
  | .verbose => "-v"

inductive Setting where
  | file (option : FileOption) (short : Bool) (name : String)
  | color (enabled : Bool)
  | flag (which : Flag) (short : Bool)
  deriving DecidableEq, Repr

namespace Setting

def words : Setting → List String
  | .file option short name => [if short then option.short else option.long, name]
  | .color enabled => [if enabled then "--color" else "--no-color"]
  | .flag which short => [if short then which.short else which.long]

def file? (option : FileOption) : Setting → Option String
  | .file own _ name => if own = option then some name else none
  | _ => none

def color? : Setting → Option Bool
  | .color enabled => some enabled
  | _ => none

end Setting

namespace Options

def setFlag (o : Options) : Flag → Options
  | .complete => { o with completing := true }
  | .verbose => { o with verbose := true }

def set (o : Options) : Setting → Options
  | .file option _ name => o.setFile option name
  | .color enabled => { o with color := enabled }
  | .flag which _ => o.setFlag which

def file? (o : Options) : FileOption → Option String
  | .rules => some o.rulesFile
  | .library => o.libraryFile

def isOn (o : Options) : Flag → Bool
  | .complete => o.completing
  | .verbose => o.verbose

end Options

section Turns

variable {o : Options} {path : Option String}

theorem turns_words (s : Setting) : Turns o path s.words (o.set s) path := by
  cases s with
  | file option short name =>
    cases short with
    | true => exact turns_value (read_short option) name
    | false => exact turns_value (read_long option) name
  | color enabled =>
    have read : Argument.read (if enabled then "--color" else "--no-color") = .color enabled := by
      cases enabled <;> decide
    exact turns_one read rfl
  | flag which short =>
    cases which with
    | complete =>
      have read : Argument.read (if short then "-c" else "--complete") = .complete := by
        cases short <;> decide
      exact turns_one read rfl
    | verbose =>
      have read : Argument.read (if short then "-v" else "--verbose") = .verbose := by
        cases short <;> decide
      exact turns_one read rfl

theorem turns_settings (settings : List Setting) :
    Turns o path (settings.flatMap Setting.words) (settings.foldl Options.set o) path := by
  induction settings generalizing o with
  | nil => exact Turns.nil
  | cons s rest ih => exact (turns_words s).append ih

end Turns

section Set

variable (o : Options) (s : Setting)

theorem file?_set (option : FileOption) :
    (o.set s).file? option = (s.file? option).or (o.file? option) := by
  cases s with
  | file own short name => cases own <;> cases option <;> rfl
  | color enabled => cases option <;> rfl
  | flag which short => cases which <;> cases option <;> rfl

theorem color_set : some (o.set s).color = s.color?.or (some o.color) := by
  cases s with
  | file option short name => cases option <;> rfl
  | color enabled => rfl
  | flag which short => cases which <;> rfl

theorem isOn_set_iff (flag : Flag) :
    (o.set s).isOn flag = true ↔ o.isOn flag = true ∨ ∃ short, s = .flag flag short := by
  cases s with
  | file option short name =>
    have same : (o.setFile option name).isOn flag = o.isOn flag := by
      cases option <;> cases flag <;> rfl
    simp [Options.set, same]
  | color enabled => cases flag <;> simp [Options.set, Options.isOn]
  | flag which short =>
    cases which <;> cases flag <;> simp [Options.set, Options.setFlag, Options.isOn]

end Set

section Settings

variable (settings : List Setting) (o : Options)

/-- What a setting overwrites or keeps is as the last one that overwrites it leaves it. -/
theorem foldl_set_last {β : Type} (get : Options → Option β) (value? : Setting → Option β)
    (step : ∀ o s, get (o.set s) = (value? s).or (get o)) :
    get (settings.foldl Options.set o) = (settings.filterMap value?).getLast?.or (get o) := by
  induction settings generalizing o with
  | nil => rfl
  | cons s rest ih =>
    rw [List.foldl_cons, ih, step]
    -- The first setting counts only where none of the others gives a value.
    cases given : value? s with
    | none => rw [List.filterMap_cons_none given, Option.none_or]
    | some value =>
      rw [List.filterMap_cons_some given, List.getLast?_cons, Option.some_or]
      cases (rest.filterMap value?).getLast? <;> rfl

theorem file?_settings (option : FileOption) :
    (settings.foldl Options.set o).file? option =
      (settings.filterMap (Setting.file? option)).getLast?.or (o.file? option) :=
  foldl_set_last settings o (Options.file? · option) (Setting.file? option)
    fun o s => file?_set o s option

theorem rulesFile_settings : (settings.foldl Options.set o).rulesFile =
    (settings.filterMap (Setting.file? .rules)).getLast?.getD o.rulesFile := by
  have file := file?_settings settings o .rules
  simp only [Options.file?, Option.or_some, Option.some.injEq] at file
  exact file

theorem color_settings : (settings.foldl Options.set o).color =
    (settings.filterMap Setting.color?).getLast?.getD o.color := by
  have color := foldl_set_last settings o (some ·.color) Setting.color? color_set
  simp only [Option.or_some, Option.some.injEq] at color
  exact color

theorem isOn_settings_iff (flag : Flag) : (settings.foldl Options.set o).isOn flag = true ↔
    o.isOn flag = true ∨ ∃ short, Setting.flag flag short ∈ settings := by
  induction settings generalizing o with
  | nil => simp
  | cons s rest ih =>
    rw [List.foldl_cons, ih, isOn_set_iff, or_assoc]
    simp only [List.mem_cons, exists_or, eq_comm]

end Settings

theorem options_by_precedence (env : Environment) (front back : List Setting) {path : String}
    (plain : path.toList.head? ≠ some '-') :
    let settings := front ++ back
    ∃ o, Request.read env
        (front.flatMap Setting.words ++ [path] ++ back.flatMap Setting.words) =
          .ok (.browse path o) ∧
      o.rulesFile = (settings.filterMap (Setting.file? .rules)).getLast?.getD
        (env.rulesFile.getD defaultRulesFile) ∧
      o.libraryFile =
        (settings.filterMap (Setting.file? .library)).getLast?.or env.libraryFile ∧
      o.color = (settings.filterMap Setting.color?).getLast?.getD env.terminal ∧
      (o.completing = true ↔ ∃ short, Setting.flag .complete short ∈ settings) ∧
      (o.verbose = true ↔ ∃ short, Setting.flag .verbose short ∈ settings) := by
  intro settings
  have turns : Turns env.options none
      (front.flatMap Setting.words ++ [path] ++ back.flatMap Setting.words)
      (settings.foldl Options.set env.options) (some path) := by
    rw [List.foldl_append]
    exact ((turns_settings front).append (turns_one (read_path plain) rfl)).append
      (turns_settings back)
  have request := turns []
  rw [List.append_nil] at request
  have off : ∀ flag, env.options.isOn flag ≠ true := by
    intro flag
    cases flag <;> exact Bool.false_ne_true
  have completing := isOn_settings_iff settings env.options .complete
  have verbose := isOn_settings_iff settings env.options .verbose
  rw [or_iff_right (off _)] at completing verbose
  exact ⟨settings.foldl Options.set env.options, request, rulesFile_settings settings env.options,
    file?_settings settings env.options .library, color_settings settings env.options, completing,
    verbose⟩

namespace Sample

def preset : Environment := ⟨some "preset.conf", some "preset.tsv", true⟩

end Sample

theorem options_by_precedence_preset :
    "".toList.head? ≠ some '-' ∧
    ∃ o, Request.read Sample.preset
        ["-r", "--help", "--color", "-c", "", "--rules", "//a", "--no-color"] =
          .ok (.browse "" o) ∧
      o.rulesFile = "//a" ∧ o.libraryFile = some "preset.tsv" ∧ o.color = false ∧
      o.completing = true ∧ o.verbose ≠ true := by
  have plain : "".toList.head? ≠ some '-' := by decide
  obtain ⟨o, request, rules, library, color, completing, verbose⟩ := options_by_precedence
    Sample.preset [.file .rules true "--help", .color true, .flag .complete true]
    [.file .rules false "//a", .color false] plain
  refine ⟨plain, o, request, rules, library, color, completing.mpr ⟨true, by decide⟩, ?_⟩
  intro on
  obtain ⟨short, member⟩ := verbose.mp on
  simp at member

end MediaPaths.CommandLine
