import MediaPaths.Proofs.Arguments
import MediaPaths.Proofs.Occurrence

/-!
The two spellings of an option with a value. The argument behind the option is taken as it stands. A
value attached with `=` loses the option's own lead as often as that stands at its front, so the two
spellings agree for the values that do not begin with it, and for no others.
-/
namespace MediaPaths.CommandLine

def FileOption.lead (option : FileOption) : List Char := option.long.toList ++ ['=']

theorem FileOption.lead_ne_nil (option : FileOption) : option.lead ≠ [] := by
  cases option <;> decide

theorem exists_repeats {lead : List Char} (filled : lead ≠ []) (times : Nat) (s : List Char)
    (enough : s.length ≤ times) :
    ∃ repeats, s = (List.replicate repeats lead).flatten ++ dropRepeats lead times s ∧
      ¬ lead <+: dropRepeats lead times s := by
  induction times generalizing s with
  | zero =>
    obtain rfl := List.length_eq_zero_iff.mp (Nat.le_zero.mp enough)
    exact ⟨0, rfl, fun leads => filled (List.prefix_nil.mp leads)⟩
  | succ times ih =>
    cases found : Text.afterLead? lead s with
    | none =>
      have kept : dropRepeats lead (times + 1) s = s := by simp only [dropRepeats, found]
      rw [kept]
      exact ⟨0, rfl, Text.afterLead?_eq_none_iff.mp found⟩
    | some rest =>
      have whole : s = lead ++ rest := Text.afterLead?_eq_some_iff.mp found
      have shorter : rest.length ≤ times := by
        have positive := List.length_pos_iff.mpr filled
        rw [whole, List.length_append] at enough
        omega
      have dropped : dropRepeats lead (times + 1) s = dropRepeats lead times rest := by
        simp only [dropRepeats, found]
      obtain ⟨repeats, split, clear⟩ := ih rest shorter
      rw [dropped]
      refine ⟨repeats + 1, ?_, clear⟩
      rw [List.replicate_succ, List.flatten_cons, List.append_assoc, ← split, whole]

def FileOption.attachedValue (option : FileOption) (value : String) : String :=
  String.ofList (dropRepeats option.lead value.toList.length value.toList)

section Spellings

variable (option : FileOption) (value : String)

theorem attachedValue_split : ∃ repeats,
    value.toList = (List.replicate repeats option.lead).flatten ++
      (option.attachedValue value).toList ∧
    ¬ option.lead <+: (option.attachedValue value).toList := by
  rw [FileOption.attachedValue, String.toList_ofList]
  exact exists_repeats option.lead_ne_nil value.toList.length value.toList (Nat.le_refl _)

theorem attachedValue_eq_self_iff :
    option.attachedValue value = value ↔ ¬ option.lead <+: value.toList := by
  obtain ⟨repeats, split, clear⟩ := attachedValue_split option value
  constructor
  · intro same
    rwa [same] at clear
  · intro plain
    cases repeats with
    | zero =>
      rw [List.replicate_zero, List.flatten_nil, List.nil_append, String.toList_inj] at split
      exact split.symm
    | succ repeats =>
      rw [List.replicate_succ, List.flatten_cons, List.append_assoc] at split
      exact absurd ⟨_, split.symm⟩ plain

theorem toList_attached :
    (option.long ++ "=" ++ value).toList = option.lead ++ value.toList := by
  rw [String.toList_append, String.toList_append]
  rfl

theorem attached?_own :
    attached? option (option.long ++ "=" ++ value) = some (option.attachedValue value) := by
  rw [attached?, toList_attached]
  simp only [FileOption.lead, Text.afterLead?_append]
  rfl

theorem attached_not_word : option.long ++ "=" ++ value ∉ words := by
  have apart : ∀ word ∈ words, ¬ option.lead <+: word.toList := by cases option <;> decide
  intro member
  apply apart _ member
  rw [toList_attached]
  exact List.prefix_append _ _

theorem read_attached :
    Argument.read (option.long ++ "=" ++ value) = .file option (option.attachedValue value) := by
  have own := attached?_own option value
  rw [read_of_not_word (attached_not_word option value)]
  cases option with
  | rules => simp only [own]
  | library =>
    have foreign : attached? .rules (FileOption.library.long ++ "=" ++ value) = none := by
      rw [attached?, toList_attached]
      rfl
    simp only [own, foreign]

variable {o : Options} {path : Option String}

theorem turns_attached : Turns o path [option.long ++ "=" ++ value]
    (o.setFile option (option.attachedValue value)) path :=
  turns_one (read_attached option value) rfl

theorem turns_separate :
    Turns o path [option.long, value] (o.setFile option value) path :=
  turns_value (read_long option) value

/-- An attached value is read as what is left of it would be, standing alone. -/
theorem read_attached_value {env : Environment} {front : List String}
    (ended : ReachedEnd (Request.read env front)) (back : List String) :
    Request.read env (front ++ [option.long ++ "=" ++ value] ++ back) =
      Request.read env (front ++ [option.long, option.attachedValue value] ++ back) := by
  obtain ⟨o, path, turns⟩ := exists_turns ended
  have attached := turns.append (turns_attached option value)
  have separate := turns.append (turns_separate option (option.attachedValue value))
  exact (attached back).trans (separate back).symm

end Spellings

theorem setFile_inj {o : Options} {option : FileOption} {a b : String}
    (same : o.setFile option a = o.setFile option b) : a = b := by
  cases option with
  | rules => exact congrArg Options.rulesFile same
  | library => exact Option.some.inj (congrArg Options.libraryFile same)

theorem value_of_request {env : Environment} {option : FileOption} {first second : List String}
    {a b : String} (turns_first : Turns env.options none first (env.options.setFile option a) none)
    (turns_second : Turns env.options none second (env.options.setFile option b) none)
    (same : Request.read env (first ++ ["//"]) = Request.read env (second ++ ["//"])) : a = b := by
  have request : ∀ o : Options, readArguments o none ["//"] = .ok (.browse "//" o) := fun _ => rfl
  rw [Request.read, Request.read, turns_first, turns_second, request, request] at same
  obtain ⟨_, options⟩ := Request.browse.inj (Except.ok.inj same)
  exact setFile_inj options

theorem attached_value_iff (option : FileOption) (value : String) :
    (∃ repeats rest, value.toList = (List.replicate repeats option.lead).flatten ++ rest.toList ∧
      ¬ option.lead <+: rest.toList ∧
      ∀ env front back, ReachedEnd (Request.read env front) →
        Request.read env (front ++ [option.long ++ "=" ++ value] ++ back) =
          Request.read env (front ++ [option.long, rest] ++ back)) ∧
    ((∀ env front back, ReachedEnd (Request.read env front) →
        Request.read env (front ++ [option.long ++ "=" ++ value] ++ back) =
          Request.read env (front ++ [option.long, value] ++ back)) ↔
      ¬ option.lead <+: value.toList) := by
  have agrees := attachedValue_eq_self_iff option value
  constructor
  · obtain ⟨repeats, split, clear⟩ := attachedValue_split option value
    refine ⟨repeats, option.attachedValue value, split, clear, ?_⟩
    intro env front back ended
    exact read_attached_value option value ended back
  · constructor
    · intro alike
      have same := alike ⟨none, none, false⟩ [] ["//"] trivial
      exact agrees.mp (value_of_request (turns_attached option value)
        (turns_separate option value) same)
    · intro plain env front back ended
      rw [read_attached_value option value ended back, agrees.mpr plain]

namespace Sample

def bare : Environment := ⟨none, none, false⟩

end Sample

theorem attached_value_iff_inside :
    ReachedEnd (Request.read Sample.bare ["--color", "-r", "--help"]) ∧
    ¬ FileOption.rules.lead <+: "x--rules=".toList ∧
    Request.read Sample.bare ["--color", "-r", "--help", "--rules=x--rules=", "//a"] =
      Request.read Sample.bare ["--color", "-r", "--help", "--rules", "x--rules=", "//a"] := by
  have ended : ReachedEnd (Request.read Sample.bare ["--color", "-r", "--help"]) := trivial
  have plain : ¬ FileOption.rules.lead <+: "x--rules=".toList := by decide
  have written : FileOption.rules.long ++ "=" ++ "x--rules=" = "--rules=x--rules=" := by
    decide +kernel
  obtain ⟨_, alike⟩ := attached_value_iff .rules "x--rules="
  have same := alike.mpr plain Sample.bare ["--color", "-r", "--help"] ["//a"] ended
  rw [written] at same
  exact ⟨ended, plain, same⟩

/-- A rule file whose name begins with the lead is another file when its name is attached. -/
theorem attached_value_loses_lead :
    ReachedEnd (Request.read Sample.bare []) ∧
    Request.read Sample.bare ["--rules=--rules=x", "//a/1"] =
      .ok (.browse "//a/1" ⟨"x", none, false, false, false⟩) ∧
    Request.read Sample.bare ["--rules", "--rules=x", "//a/1"] =
      .ok (.browse "//a/1" ⟨"--rules=x", none, false, false, false⟩) ∧
    ¬ ∀ option value env front back, ReachedEnd (Request.read env front) →
      Request.read env (front ++ [FileOption.long option ++ "=" ++ value] ++ back) =
        Request.read env (front ++ [FileOption.long option, value] ++ back) := by
  have attached : Request.read Sample.bare ["--rules=--rules=x", "//a/1"] =
      .ok (.browse "//a/1" ⟨"x", none, false, false, false⟩) := rfl
  have separate : Request.read Sample.bare ["--rules", "--rules=x", "//a/1"] =
      .ok (.browse "//a/1" ⟨"--rules=x", none, false, false, false⟩) := rfl
  refine ⟨trivial, attached, separate, ?_⟩
  intro alike
  have written : FileOption.rules.long ++ "=" ++ "--rules=x" = "--rules=--rules=x" := by
    decide +kernel
  have same := alike .rules "--rules=x" Sample.bare [] ["//a/1"] trivial
  rw [written] at same
  exact absurd (attached.symm.trans (same.trans separate)) (by simp)

end MediaPaths.CommandLine
