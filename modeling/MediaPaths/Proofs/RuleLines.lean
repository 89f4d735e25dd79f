import Mathlib.Data.List.TakeWhile
import MediaPaths.Proofs.Occurrence
import MediaPaths.Proofs.RegistryRuns

/-!
The rule lines of a text, with their numbers. A line asks for a rule when it is neither blank nor a
comment and ` = ` divides it; then there is something on either side (`RuleLine.Asks.nonempty`). The
numbers count all lines from one. Lines can be blanked out: the newlines stay, so the other lines keep
their numbers.
-/
namespace MediaPaths

namespace Text

theorem trimEnd_prefix (s : List Char) : trimEnd s <+: s := by
  have within := List.dropWhile_suffix isBlank (l := s.reverse)
  simpa [trimEnd] using List.reverse_prefix.mpr within

theorem head_trimChars {s : List Char} {c : Char} (first : (trimChars s).head? = some c) :
    isBlank c = false := by
  obtain ⟨back, whole⟩ := trimEnd_prefix (s.dropWhile isBlank)
  have front : (s.dropWhile isBlank).head? = some c := by
    rw [← whole, List.head?_append]
    simp [show (trimEnd (s.dropWhile isBlank)).head? = some c from first]
  have stops := List.head?_dropWhile_not isBlank s
  rwa [front] at stops

theorem last_trimChars {s : List Char} {c : Char} (last : (trimChars s).getLast? = some c) :
    isBlank c = false := by
  have stops := List.head?_dropWhile_not isBlank (s.dropWhile isBlank).reverse
  rw [trimChars, trimEnd, List.getLast?_reverse] at last
  rwa [last] at stops

theorem trimChars_eq_nil_iff (s : List Char) : trimChars s = [] ↔ ∀ c ∈ s, isBlank c = true := by
  have front := List.dropWhile_eq_nil_iff (p := isBlank) (l := s)
  rw [trimChars, trimEnd, List.reverse_eq_nil_iff, List.dropWhile_eq_nil_iff, ← front]
  constructor
  · intro blank
    cases rest : s.dropWhile isBlank with
    | nil => rfl
    | cons c rest' =>
      have stops := List.head?_dropWhile_not isBlank s
      have first := blank c (by simp [rest])
      simp [rest, first] at stops
  · intro nothing
    simp [nothing]

theorem trimChars_append_blank (s : List Char) {c : Char} (blank : isBlank c = true) :
    trimChars (s ++ [c]) = trimChars s := by
  rw [trimChars, trimChars, List.dropWhile_append]
  cases rest : s.dropWhile isBlank with
  | nil => simp [blank]
  | cons d rest' => simp [trimEnd, blank]

theorem trimChars_dropReturn (line : List Char) :
    trimChars (dropReturn line).reverse = trimChars line.reverse := by
  cases line with
  | nil => rfl
  | cons c line =>
    by_cases carriage : c = '\r'
    · simp only [dropReturn, carriage, ↓reduceIte, List.reverse_cons]
      exact (trimChars_append_blank line.reverse (by decide)).symm
    · simp [dropReturn, carriage]

end Text

namespace RuleLine

def separator : List Char := [' ', '=', ' ']

structure Asks (line name spec : String) : Prop where
  filled : Text.trimChars line.toList ≠ []
  noComment : (Text.trimChars line.toList).head? ≠ some '#'
  divided : ∃ before after, Text.FirstAt separator before after (Text.trimChars line.toList) ∧
    name = String.ofList (Text.trimChars before) ∧ spec = String.ofList (Text.trimChars after)

theorem addition?_read_iff (line name spec : String) :
    (read line).addition? = some (name, spec) ↔ Asks line name spec := by
  by_cases passed : Text.trimChars line.toList = [] ∨ (Text.trimChars line.toList).head? = some '#'
  · simp only [read, passed, ↓reduceIte, addition?, reduceCtorEq, false_iff]
    intro asks
    exact passed.elim asks.filled asks.noComment
  · obtain ⟨filled, noComment⟩ := not_or.mp passed
    cases cut : Text.cut? separator (Text.trimChars line.toList) with
    | none =>
      have absent := Text.cut?_eq_none_iff.mp cut
      simp only [separator] at cut
      simp only [read, passed, ↓reduceIte, cut, addition?, reduceCtorEq, false_iff]
      intro asks
      obtain ⟨before, after, first, _, _⟩ := asks.divided
      exact absent ⟨before, after, first.whole.symm⟩
    | some p =>
      obtain ⟨before, after⟩ := p
      have first := Text.cut?_eq_some_iff.mp cut
      simp only [separator] at cut
      simp only [read, passed, ↓reduceIte, cut, addition?, Option.some.injEq, Prod.mk.injEq]
      constructor
      · intro given
        exact ⟨filled, noComment, before, after, first, given.1.symm, given.2.symm⟩
      · intro asks
        obtain ⟨before', after', first', eq_name, eq_spec⟩ := asks.divided
        obtain ⟨rfl, rfl⟩ := first.unique first'
        exact ⟨eq_name.symm, eq_spec.symm⟩

/-- The separator begins and ends with a blank and the line does not, so it stands between others. -/
theorem Asks.nonempty {line name spec : String} (asks : Asks line name spec) :
    name ≠ "" ∧ spec ≠ "" := by
  obtain ⟨before, after, first, rfl, rfl⟩ := asks.divided
  have whole := first.whole
  constructor
  · intro unnamed
    have blank : Text.trimChars before = [] := by simpa using unnamed
    rw [Text.trimChars_eq_nil_iff] at blank
    cases before with
    | nil =>
      have starts := Text.head_trimChars (c := ' ') (by rw [whole]; rfl)
      exact absurd starts (by decide)
    | cons c before =>
      have starts := Text.head_trimChars (c := c) (by rw [whole]; rfl)
      rw [blank c (by simp)] at starts
      cases starts
  · intro unspecified
    have blank : Text.trimChars after = [] := by simpa using unspecified
    rw [Text.trimChars_eq_nil_iff] at blank
    cases last : after.getLast? with
    | none =>
      obtain rfl := List.getLast?_eq_none_iff.mp last
      have ends := Text.last_trimChars (c := ' ') (by rw [whole]; simp [separator])
      exact absurd ends (by decide)
    | some c =>
      have ends := Text.last_trimChars (c := c) (by rw [whole, List.getLast?_append, last]; rfl)
      rw [blank c (List.mem_of_getLast? last)] at ends
      cases ends

def numbered (number : Nat) (lines : List String) : List (Nat × String × String) :=
  (lines.zipIdx number).filterMap fun p => (read p.1).addition?.map (p.2, ·)

theorem numbered_cons_none {line : String} (asked : (read line).addition? = none) (number : Nat)
    (rest : List String) : numbered number (line :: rest) = numbered (number + 1) rest := by
  simp [numbered, asked]

theorem numbered_cons_some {line : String} {addition : String × String}
    (asked : (read line).addition? = some addition) (number : Nat) (rest : List String) :
    numbered number (line :: rest) = (number, addition) :: numbered (number + 1) rest := by
  simp [numbered, asked]

theorem mem_numbered_iff (number : Nat) (lines : List String) (n : Nat) (name spec : String) :
    (n, name, spec) ∈ numbered number lines ↔
      number ≤ n ∧ ∃ line, lines[n - number]? = some line ∧ Asks line name spec := by
  simp only [numbered, List.mem_filterMap, Option.map_eq_some_iff, Prod.mk.injEq]
  constructor
  · intro member
    obtain ⟨⟨line, i⟩, inside, addition, asked, rfl, rfl⟩ := member
    obtain ⟨later, at_line⟩ := List.mk_mem_zipIdx_iff_le_and_getElem?_sub.mp inside
    exact ⟨later, line, at_line, (addition?_read_iff line name spec).mp asked⟩
  · intro member
    obtain ⟨later, line, at_line, asks⟩ := member
    exact ⟨(line, n), List.mk_mem_zipIdx_iff_le_and_getElem?_sub.mpr ⟨later, at_line⟩, (name, spec),
      (addition?_read_iff line name spec).mpr asks, rfl, rfl⟩

theorem le_of_mem_numbered {number : Nat} {lines : List String} {r : Nat × String × String}
    (member : r ∈ numbered number lines) : number ≤ r.1 :=
  ((mem_numbered_iff number lines r.1 r.2.1 r.2.2).mp member).1

theorem numbered_increasing (number : Nat) (lines : List String) :
    ((numbered number lines).map Prod.fst).Pairwise (· < ·) := by
  induction lines generalizing number with
  | nil => exact List.Pairwise.nil
  | cons line rest ih =>
    cases asked : (read line).addition? with
    | none =>
      rw [numbered_cons_none asked]
      exact ih (number + 1)
    | some addition =>
      rw [numbered_cons_some asked, List.map_cons, List.pairwise_cons]
      refine ⟨?_, ih (number + 1)⟩
      intro n member
      obtain ⟨r, inside, rfl⟩ := List.mem_map.mp member
      exact le_of_mem_numbered inside

theorem additions_numbered (number : Nat) (lines : List String) :
    (numbered number lines).map Prod.snd = lines.filterMap fun line => (read line).addition? := by
  induction lines generalizing number with
  | nil => rfl
  | cons line rest ih =>
    cases asked : (read line).addition? with
    | none => rw [numbered_cons_none asked, ih, List.filterMap_cons, asked]
    | some addition =>
      rw [numbered_cons_some asked, List.map_cons, ih, List.filterMap_cons, asked]

theorem read_congr {line other : String}
    (same : Text.trimChars line.toList = Text.trimChars other.toList) : read line = read other := by
  simp only [read, same]

/-- For rule lines it does not matter what becomes of carriage returns, nor whether the last line is
empty, so the lines may be taken between the newlines. -/
theorem numbered_linesFrom (s line : List Char) (whole : '\n' ∉ line) (number : Nat) :
    numbered number ((Text.linesFrom line s).map String.ofList) =
      numbered number (((line.reverse ++ s).splitOn '\n').map String.ofList) := by
  induction s generalizing line number with
  | nil =>
    have one : line.reverse.splitOn '\n' = [line.reverse] :=
      List.splitOn_eq_singleton (by simpa using whole)
    rw [List.append_nil, one, Text.linesFrom]
    split
    · rename_i empty
      subst empty
      rfl
    · rfl
  | cons c s ih =>
    by_cases newline : c = '\n'
    · subst newline
      have first : (line.reverse ++ '\n' :: s).splitOn '\n' = line.reverse :: s.splitOn '\n' :=
        List.splitOn_append_cons_self_of_not_mem (by simpa using whole) s
      have same : read (String.ofList (Text.dropReturn line).reverse) =
          read (String.ofList line.reverse) := by
        apply read_congr
        simpa using Text.trimChars_dropReturn line
      have later := ih [] (by simp) (number + 1)
      rw [List.reverse_nil, List.nil_append] at later
      simp only [first, Text.linesFrom, ↓reduceIte, List.map_cons]
      have same' := congrArg addition? same
      cases asked : (read (String.ofList line.reverse)).addition? with
      | none =>
        rw [numbered_cons_none (same'.trans asked), numbered_cons_none asked, later]
      | some addition =>
        rw [numbered_cons_some (same'.trans asked), numbered_cons_some asked, later]
    · have later := ih (c :: line) (by simp [whole, Ne.symm newline]) number
      simpa [Text.linesFrom, newline] using later

end RuleLine

def ruleLines (text : String) : List (Nat × String × String) :=
  RuleLine.numbered 1 (Text.lines text)

theorem ruleLines_eq (text : String) :
    ruleLines text = RuleLine.numbered 1 ((text.toList.splitOn '\n').map String.ofList) := by
  have between := RuleLine.numbered_linesFrom text.toList [] (by simp) 1
  rwa [List.reverse_nil, List.nil_append] at between

namespace Text

def blanked (numbers : List Nat) (number : Nat) (lines : List (List Char)) : List (List Char) :=
  (lines.zipIdx number).map fun p => if p.2 ∈ numbers then [] else p.1

def blankOut (numbers : List Nat) (text : String) : String :=
  String.ofList (['\n'].intercalate (blanked numbers 1 (text.toList.splitOn '\n')))

end Text

theorem RuleLine.numbered_blanked (numbers : List Nat) (number : Nat) (lines : List (List Char)) :
    numbered number ((Text.blanked numbers number lines).map String.ofList) =
      (numbered number (lines.map String.ofList)).filter fun r => r.1 ∉ numbers := by
  induction lines generalizing number with
  | nil => rfl
  | cons line rest ih =>
    have later := ih (number + 1)
    simp only [Text.blanked, List.zipIdx_cons, List.map_cons] at later ⊢
    by_cases blank : number ∈ numbers
    · have empty : (read (String.ofList [])).addition? = none := by decide
      rw [if_pos blank, numbered_cons_none empty, later]
      cases asked : (read (String.ofList line)).addition? with
      | none => rw [numbered_cons_none asked]
      | some addition => rw [numbered_cons_some asked, List.filter_cons_of_neg (by simpa using blank)]
    · rw [if_neg blank]
      cases asked : (read (String.ofList line)).addition? with
      | none => rw [numbered_cons_none asked, numbered_cons_none asked, later]
      | some addition =>
        rw [numbered_cons_some asked, numbered_cons_some asked,
          List.filter_cons_of_pos (by simpa using blank), later]

theorem ruleLines_blankOut (numbers : List Nat) (text : String) :
    ruleLines (Text.blankOut numbers text) = (ruleLines text).filter fun r => r.1 ∉ numbers := by
  have apart : ∀ line ∈ Text.blanked numbers 1 (text.toList.splitOn '\n'), '\n' ∉ line := by
    intro line member
    obtain ⟨⟨piece, n⟩, inside, rfl⟩ := List.mem_map.mp member
    have piece_mem := List.fst_mem_of_mem_zipIdx inside
    split
    · simp
    · exact Rule.not_mem_of_mem_splitOn piece_mem
  have some_line : Text.blanked numbers 1 (text.toList.splitOn '\n') ≠ [] := by
    simp [Text.blanked, List.splitOn_ne_nil]
  rw [ruleLines_eq, ruleLines_eq, Text.blankOut, String.toList_ofList,
    List.splitOn_intercalate '\n' apart some_line, RuleLine.numbered_blanked]

end MediaPaths
