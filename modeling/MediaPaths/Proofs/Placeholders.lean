import Mathlib.Data.List.TakeWhile
import MediaPaths.Proofs.Splitting

/-!
Where the placeholders of a format are. A complete placeholder is `${`, a name without `}` and
without a newline, and `}`; of two that overlap, the one that begins first counts. A format is read
character by character, which gives what two plainer readings of it find: one takes the first
placeholder off and goes on with the text behind it (`build`), the other goes over the whole text
with a cursor and replaces every placeholder it meets (`replaceAll`).
-/
namespace MediaPaths

namespace Template

def placeholder (name : List Char) : List Char := '$' :: '{' :: (name ++ ['}'])

def inName (c : Char) : Bool := c != '}' && c != '\n'

def IsName (name : List Char) : Prop := ∀ c ∈ name, inName c = true

def HoldsPlaceholder (s : List Char) : Prop :=
  ∃ before name rest, IsName name ∧ s = before ++ placeholder name ++ rest

/-- `s` has a placeholder between `before` and `rest`, and none that begins sooner. -/
structure FirstPlaceholder (before name rest s : List Char) : Prop where
  named : IsName name
  whole : s = before ++ placeholder name ++ rest
  soonest : ∀ before' name' rest', IsName name' → s = before' ++ placeholder name' ++ rest' →
    before.length ≤ before'.length

def leading? (s : List Char) : Option (List Char × List Char) :=
  match Text.afterLead? ['$', '{'] s with
  | none => none
  | some inside =>
    match inside.dropWhile inName with
    | '}' :: rest => some (inside.takeWhile inName, rest)
    | _ => none

def first? : List Char → Option (List Char × List Char × List Char)
  | [] => none
  | c :: s =>
    match leading? (c :: s) with
    | some (name, rest) => some ([], name, rest)
    | none => (first? s).map fun (before, name, rest) => (c :: before, name, rest)

section Search

theorem isName_iff {name : List Char} : IsName name ↔ '}' ∉ name ∧ '\n' ∉ name := by
  simp only [IsName, inName, Bool.and_eq_true, bne_iff_ne, ne_eq]
  constructor
  · intro each
    exact ⟨fun brace => (each _ brace).1 rfl, fun newline => (each _ newline).2 rfl⟩
  · rintro ⟨noBrace, noNewline⟩ c member
    exact ⟨fun same => noBrace (same ▸ member), fun same => noNewline (same ▸ member)⟩

theorem leading?_eq_some_iff {s name rest : List Char} :
    leading? s = some (name, rest) ↔ IsName name ∧ s = placeholder name ++ rest := by
  constructor
  · intro found
    unfold leading? at found
    cases opened : Text.afterLead? ['$', '{'] s with
    | none => simp [opened] at found
    | some inside =>
      simp only [opened] at found
      split at found
      · rename_i behind closed
        obtain ⟨rfl, rfl⟩ := Prod.mk.inj (Option.some.inj found)
        have split : inside = inside.takeWhile inName ++ '}' :: behind := by
          rw [← closed, List.takeWhile_append_dropWhile]
        refine ⟨fun c => List.mem_takeWhile_imp, ?_⟩
        calc s = '$' :: '{' :: inside := Text.afterLead?_eq_some_iff.mp opened
          _ = '$' :: '{' :: (inside.takeWhile inName ++ '}' :: behind) := by rw [← split]
          _ = placeholder (inside.takeWhile inName) ++ behind := by simp [placeholder]
      · cases found
  · rintro ⟨named, rfl⟩
    have opened : Text.afterLead? ['$', '{'] (placeholder name ++ rest) =
        some (name ++ '}' :: rest) :=
      Text.afterLead?_eq_some_iff.mpr (by simp [placeholder])
    have ends : inName '}' = false := by decide
    simp only [leading?, opened]
    rw [List.dropWhile_append_of_pos named, List.takeWhile_append_of_pos named]
    simp [ends]

theorem leading?_eq_none_iff {s : List Char} :
    leading? s = none ↔ ∀ name rest, IsName name → s ≠ placeholder name ++ rest := by
  rw [Option.eq_none_iff_forall_ne_some, Prod.forall]
  simp only [ne_eq, leading?_eq_some_iff, not_and]

theorem firstPlaceholder_of_first? {s before name rest : List Char}
    (found : first? s = some (before, name, rest)) : FirstPlaceholder before name rest s := by
  induction s generalizing before with
  | nil => cases found
  | cons c s ih =>
    cases here : leading? (c :: s) with
    | some p =>
      simp only [first?, here, Option.some.injEq, Prod.mk.injEq] at found
      obtain ⟨rfl, rfl, rfl⟩ := found
      obtain ⟨named, whole⟩ := leading?_eq_some_iff.mp here
      exact ⟨named, whole, fun _ _ _ _ _ => Nat.zero_le _⟩
    | none =>
      simp only [first?, here, Option.map_eq_some_iff] at found
      obtain ⟨⟨front, name', rest'⟩, later, same⟩ := found
      obtain ⟨rfl, rfl, rfl⟩ := same
      have first := ih later
      refine ⟨first.named, by simp [first.whole], ?_⟩
      intro before' name'' rest'' named whole
      cases before' with
      | nil => exact absurd whole (leading?_eq_none_iff.mp here name'' rest'' named)
      | cons d before' =>
        have further := first.soonest before' name'' rest'' named (List.cons.inj whole).2
        simpa using further

theorem first?_eq_none_iff {s : List Char} : first? s = none ↔ ¬ HoldsPlaceholder s := by
  induction s with
  | nil => simp [first?, HoldsPlaceholder, placeholder]
  | cons c s ih =>
    cases here : leading? (c :: s) with
    | some p =>
      obtain ⟨named, whole⟩ := leading?_eq_some_iff.mp here
      simp only [first?, here, reduceCtorEq, false_iff, not_not]
      exact ⟨[], p.1, p.2, named, whole⟩
    | none =>
      simp only [first?, here, Option.map_eq_none_iff, ih, not_iff_not]
      constructor
      · rintro ⟨before, name, rest, named, rfl⟩
        exact ⟨c :: before, name, rest, named, rfl⟩
      · rintro ⟨before, name, rest, named, whole⟩
        cases before with
        | nil => exact absurd whole (leading?_eq_none_iff.mp here name rest named)
        | cons d before => exact ⟨before, name, rest, named, (List.cons.inj whole).2⟩

theorem FirstPlaceholder.before_holds_none {before name rest s : List Char}
    (first : FirstPlaceholder before name rest s) : ¬ HoldsPlaceholder before := by
  rintro ⟨front, name', back, named, rfl⟩
  have far := first.soonest front name' (back ++ placeholder name ++ rest) named
    (by simp [first.whole])
  simp only [placeholder, List.length_append, List.length_cons] at far
  omega

theorem leading?_newline {x : List Char} (unclosed : '}' ∉ x) (rest : List Char) :
    leading? (x ++ '\n' :: rest) = none := by
  rw [leading?_eq_none_iff]
  intro name behind named whole
  have noNewline : '\n' ∉ placeholder name := by simp [placeholder, (isName_iff.mp named).2]
  have brace : '}' ∈ placeholder name := by simp [placeholder]
  rcases List.append_eq_append_iff.mp whole with ⟨back, within, tail⟩ | ⟨back, within, tail⟩
  · cases back with
    | nil =>
      rw [List.append_nil] at within
      exact unclosed (within ▸ brace)
    | cons c back =>
      obtain ⟨rfl, -⟩ := List.cons.inj tail
      exact noNewline (by simp [within])
  · exact unclosed (by simp [within, brace])

theorem leading?_plain {c : Char} {rest : List Char}
    (plain : ∀ tail, c = '$' → rest = '{' :: tail → False) : leading? (c :: rest) = none := by
  rw [leading?_eq_none_iff]
  intro name behind _ whole
  obtain ⟨rfl, tail⟩ := List.cons.inj whole
  exact plain _ rfl tail

theorem first?_newline {x : List Char} (unclosed : '}' ∉ x) (rest : List Char) :
    first? (x ++ '\n' :: rest) =
      (first? rest).map fun (before, name, rest) => (x ++ '\n' :: before, name, rest) := by
  induction x with
  | nil =>
    have here := leading?_newline unclosed rest
    simp only [List.nil_append] at here ⊢
    rw [first?, here]
  | cons c x ih =>
    have here := leading?_newline unclosed rest
    have later := ih fun brace => unclosed (List.mem_cons_of_mem c brace)
    simp only [List.cons_append] at here ⊢
    simp only [first?, here, later, Option.map_map]
    rfl

theorem first?_unclosed {x : List Char} (unclosed : '}' ∉ x) : first? x = none := by
  rw [first?_eq_none_iff]
  rintro ⟨before, name, rest, _, rfl⟩
  exact unclosed (by simp [placeholder])

theorem first?_placeholder {name : List Char} (named : IsName name) (rest : List Char) :
    first? (placeholder name ++ rest) = some ([], name, rest) := by
  have here : leading? (placeholder name ++ rest) = some (name, rest) :=
    leading?_eq_some_iff.mpr ⟨named, rfl⟩
  simp only [placeholder, List.cons_append] at here ⊢
  simp only [first?, here]

end Search

section Read

theorem name_ends (s : List Char) : ∃ inside, IsName inside ∧
    ((∃ rest, s = inside ++ '}' :: rest) ∨ (∃ rest, s = inside ++ '\n' :: rest) ∨ s = inside) := by
  refine ⟨s.takeWhile inName, fun c => List.mem_takeWhile_imp, ?_⟩
  have split : s = s.takeWhile inName ++ s.dropWhile inName :=
    List.takeWhile_append_dropWhile.symm
  have stops := List.head?_dropWhile_not inName s
  cases behind : s.dropWhile inName with
  | nil =>
    rw [behind, List.append_nil] at split
    exact Or.inr (Or.inr split)
  | cons c rest =>
    rw [behind] at split stops
    by_cases brace : c = '}'
    · exact Or.inl ⟨rest, brace ▸ split⟩
    · have newline : c = '\n' := by simpa [inName, brace] using stops
      exact Or.inr (Or.inl ⟨rest, newline ▸ split⟩)

theorem readName_inside {inside : List Char} (named : IsName inside) (text name s : List Char) :
    readName text name (inside ++ s) = readName text (inside.reverse ++ name) s := by
  induction inside generalizing name with
  | nil => rfl
  | cons c inside ih =>
    have first : c ≠ '}' ∧ c ≠ '\n' := by simpa [inName] using named c (by simp)
    have later := ih (fun d member => named d (List.mem_cons_of_mem c member)) (c :: name)
    simp only [List.cons_append, readName, if_neg first.1, if_neg first.2, later,
      List.reverse_cons, List.append_assoc, List.nil_append]

/-- Reading by characters takes the first placeholder off and goes on with the text behind it. -/
theorem readText_eq (text s : List Char) : readText text s =
    match first? s with
    | none => .literal (text.reverse ++ s)
    | some (before, name, rest) =>
      .slot (text.reverse ++ before) (String.ofList name) (readText [] rest) := by
  rw [readText.eq_def text s]
  split
  · simp [first?]
  · rename_i s
    obtain ⟨inside, named, ⟨rest, rfl⟩ | ⟨rest, rfl⟩ | whole⟩ := name_ends s
    · -- The name is closed: the placeholder is the first one.
      have found := first?_placeholder named rest
      simp only [placeholder, List.cons_append, List.append_assoc, List.nil_append] at found
      simp [readName_inside named, readName, found]
    · -- A newline: all up to it is literal text.
      have unclosed : '}' ∉ '$' :: '{' :: inside := by simp [(isName_iff.mp named).1]
      have skipped := first?_newline unclosed rest
      simp only [List.cons_append] at skipped
      rw [readName_inside named, readName, if_neg (by decide), if_pos rfl, readText_eq _ rest,
        skipped]
      cases first? rest <;> simp
    · obtain rfl := whole
      have unclosed : '}' ∉ '$' :: '{' :: s := by simp [(isName_iff.mp named).1]
      have read := readName_inside named text [] []
      rw [List.append_nil] at read
      rw [read, first?_unclosed unclosed]
      simp [readName]
  · rename_i c rest plain
    rw [readText_eq (c :: text) rest, first?, leading?_plain plain]
    cases first? rest <;> simp
termination_by s.length

end Read

section Parts

def parts : Template → List (String × List Char)
  | .literal _ => []
  | .slot _ name rest => (name, rest.lead) :: rest.parts

/-- The literal texts in their order, with what each name is worth between them. -/
def fill (value : String → List Char) (t : Template) : List Char :=
  t.lead ++ t.parts.flatMap fun (name, text) => value name ++ text

@[simp] theorem fill_literal (value : String → List Char) (text : List Char) :
    (Template.literal text).fill value = text := by
  simp [fill, lead, parts]

@[simp] theorem fill_slot (value : String → List Char) (text : List Char) (name : String)
    (rest : Template) :
    (Template.slot text name rest).fill value = text ++ value name ++ rest.fill value := by
  simp [fill, lead, parts]

theorem names_eq (t : Template) : t.names = t.parts.map Prod.fst := by
  induction t with
  | literal text => rfl
  | slot text name rest ih => simp [names, parts, ih]

theorem format_eq_fill (t : Template) :
    t.format = t.fill fun name => placeholder name.toList := by
  induction t with
  | literal text => simp [format]
  | slot text name rest ih => simp [format, placeholder, ih]

theorem render_eq_fill (row : Row) (t : Template) :
    t.render row = t.fill fun name => (shown row name).toList := by
  induction t with
  | literal text => simp [render]
  | slot text name rest ih => simp [render_slot, ih]

end Parts

section Build

theorem FirstPlaceholder.rest_shorter {before name rest s : List Char}
    (first : FirstPlaceholder before name rest s) : rest.length < s.length := by
  simp only [first.whole, placeholder, List.length_append, List.length_cons]
  omega

/-- Takes the first placeholder off and goes on with the text behind it. -/
def build (s : List Char) : Template :=
  match _ : first? s with
  | none => .literal s
  | some (before, name, rest) => .slot before (String.ofList name) (build rest)
termination_by s.length
decreasing_by exact (firstPlaceholder_of_first? ‹_›).rest_shorter

theorem build_of_none {s : List Char} (found : first? s = none) : build s = .literal s := by
  rw [build]
  split <;> simp_all

theorem build_of_some {s before name rest : List Char}
    (found : first? s = some (before, name, rest)) :
    build s = .slot before (String.ofList name) (build rest) := by
  rw [build]
  split <;> simp_all

theorem build_eq (s : List Char) : build s = readText [] s := by
  fun_induction build s with
  | case1 s found => rw [readText_eq, found]; rfl
  | case2 s before name rest found ih => rw [readText_eq, found, ih]; rfl

theorem build_clean (s : List Char) :
    ¬ HoldsPlaceholder (build s).lead ∧
      ∀ p ∈ (build s).parts, IsName p.1.toList ∧ ¬ HoldsPlaceholder p.2 := by
  fun_induction build s with
  | case1 s found => exact ⟨first?_eq_none_iff.mp found, by simp [parts]⟩
  | case2 s before name rest found ih =>
    have first := firstPlaceholder_of_first? found
    refine ⟨first.before_holds_none, ?_⟩
    intro p member
    rcases List.mem_cons.mp member with rfl | later
    · exact ⟨by simpa using first.named, ih.1⟩
    · exact ih.2 p later

end Build

section Replace

/-- Replaces from `last` on, where the placeholder before ended: the text up to the next one is
copied, and the search goes on behind that one, in the text as it was. -/
def replaceFrom (value : String → List Char) (s : List Char) (last : Nat) : List Char :=
  match _ : first? (s.drop last) with
  | none => s.drop last
  | some (before, name, _) =>
    let start := last + before.length
    s.extract last start ++ value (String.ofList name) ++
      replaceFrom value s (start + (placeholder name).length)
termination_by s.length - last
decreasing_by
  have whole := congrArg List.length (firstPlaceholder_of_first? ‹_›).whole
  simp only [placeholder, List.length_drop, List.length_append, List.length_cons] at whole ⊢
  omega

def replaceAll (value : String → List Char) (s : List Char) : List Char := replaceFrom value s 0

theorem replaceFrom_eq (value : String → List Char) (s : List Char) (last : Nat) :
    replaceFrom value s last = (build (s.drop last)).fill value := by
  fun_induction replaceFrom value s last with
  | case1 last found => simp [build_of_none found]
  | case2 last before name rest found start ih =>
    have whole := (firstPlaceholder_of_first? found).whole
    have copied : s.extract last start = before := by
      simp [List.extract_eq_take_drop, start, whole]
    have behind : s.drop (start + (placeholder name).length) = rest := by
      have further : start + (placeholder name).length =
          last + (before ++ placeholder name).length := by
        simp only [start, List.length_append]
        omega
      rw [further, ← List.drop_drop, whole, List.drop_left]
    rw [ih, behind, copied, build_of_some found, fill_slot]

end Replace

end Template

theorem placeholders_read_alike (format : String) :
    let t := Template.read format
    t = Template.build format.toList ∧
      format.toList = t.lead ++
        t.parts.flatMap (fun (name, text) => '$' :: '{' :: name.toList ++ '}' :: text) ∧
      (∀ name ∈ t.parts.map Prod.fst, '}' ∉ name.toList ∧ '\n' ∉ name.toList) ∧
      (∀ text ∈ t.lead :: t.parts.map Prod.snd, ¬ Template.HoldsPlaceholder text) ∧
      t.names = t.parts.map Prod.fst ∧
      ∀ level : Level, level.format = format →
        level.template = t ∧ level.names = t.parts.map Prod.fst ∧
          ∀ row : Row,
            let value (name : String) := ((row.get? name).getD "").toList
            (level.render row).toList =
                t.lead ++ t.parts.flatMap (fun (name, text) => value name ++ text) ∧
              (level.render row).toList = Template.replaceAll value format.toList := by
  intro t
  have built : Template.build format.toList = t := Template.build_eq format.toList
  obtain ⟨leadClean, partsClean⟩ := Template.build_clean format.toList
  rw [built] at leadClean partsClean
  refine ⟨built.symm, ?_, ?_, ?_, t.names_eq, ?_⟩
  · have written := t.format_eq_fill
    rw [Template.format_read] at written
    simpa [Template.fill, Template.placeholder] using written
  · intro name member
    obtain ⟨p, part, rfl⟩ := List.mem_map.mp member
    exact Template.isName_iff.mp (partsClean p part).1
  · intro text member
    rcases List.mem_cons.mp member with rfl | later
    · exact leadClean
    · obtain ⟨p, part, rfl⟩ := List.mem_map.mp later
      exact (partsClean p part).2
  · rintro level rfl
    refine ⟨rfl, t.names_eq, ?_⟩
    intro row value
    have rendered : (level.render row).toList = t.fill value := by
      rw [Level.render, String.toList_ofList]
      exact t.render_eq_fill row
    have replaced : Template.replaceAll value level.format.toList = t.fill value := by
      rw [Template.replaceAll, Template.replaceFrom_eq, List.drop_zero, built]
    exact ⟨rendered, rendered.trans replaced.symm⟩

def Sample.tangled : Level :=
  ⟨"$\x7b$\x7ba\x7d - $\x7bb\n$\x7bb\x7d$\x7b\x7d", by decide, by decide, by decide⟩

theorem placeholders_read_alike_tangled :
    Sample.tangled.format = "$\x7b$\x7ba\x7d - $\x7bb\n$\x7bb\x7d$\x7b\x7d" ∧
      Sample.tangled.names = ["$\x7ba", "b", ""] ∧
      (Sample.tangled.render (Table.ofList [("$\x7ba", "$\x7bb\x7d"), ("b", "x")])).toList =
        "$\x7bb\x7d - $\x7bb\nx".toList := by
  obtain ⟨_, _, _, _, _, each⟩ :=
    placeholders_read_alike "$\x7b$\x7ba\x7d - $\x7bb\n$\x7bb\x7d$\x7b\x7d"
  obtain ⟨_, names, rendered⟩ := each Sample.tangled rfl
  refine ⟨rfl, names.trans (by decide), ?_⟩
  exact (rendered _).1.trans (by decide)

end MediaPaths
