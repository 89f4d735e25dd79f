import Mathlib.Data.List.Nodup
import MediaPaths.Proofs.Merge
import MediaPaths.Proofs.Splitting

/-!
From rows to lines and back. The line of a row gives the row back exactly when each literal between
two placeholders marks the end of the value in front of it (`Template.fit_render_iff`); the literals
at the two ends are never in the way. From a token to its values and back, nothing gets lost: the
token leads the line that its values make, and only what it left out stands behind it
(`Template.Divides.leads`, `Template.Divides.completes`).
-/
namespace MediaPaths

namespace Template

def literals : Template → List (List Char)
  | .literal text => [text]
  | .slot text _ rest => text :: rest.literals

def ending : Template → List Char
  | .literal text => text
  | .slot _ _ rest => rest.ending

theorem firstAt_own_iff {separator value : List Char} :
    Text.FirstAt separator value [] (value ++ separator) ↔ Separates separator value := by
  constructor
  · exact separates_of_firstAt
  · intro separates
    exact ⟨(List.append_nil _).symm, separates⟩

/-- Legible by the place in the template: the literal at `k + 1` stands behind the name at `k`. -/
theorem legible_iff {row : Row} {t : Template} :
    t.Legible row ↔ ∀ k, k + 1 < t.names.length → ∀ name separator, t.names[k]? = some name →
      t.literals[k + 1]? = some separator → Separates separator (shown row name).toList := by
  induction t with
  | literal text => simp [Legible, names]
  | slot text name rest ih =>
    cases rest with
    | literal last => simp [Legible, names]
    | slot separator next more =>
      constructor
      · intro legible k inside n s at_name at_literal
        obtain ⟨first, later⟩ := legible
        cases k with
        | zero =>
          obtain rfl := Option.some.inj at_name
          obtain rfl := Option.some.inj at_literal
          exact first
        | succ k => exact ih.mp later k (Nat.lt_of_succ_lt_succ inside) n s at_name at_literal
      · intro each
        refine ⟨each 0 (by simp [names]) name separator rfl rfl, ih.mpr ?_⟩
        intro k inside
        exact each (k + 1) (Nat.succ_lt_succ inside)

/-- Where every placeholder got what the row shows, every separator was found at its own place. -/
theorem legible_of_divides {row : Row} {name : String} {rest : Template} (text : List Char)
    (divided : Divides name rest ((shown row name).toList ++ rest.render row)
      ((name :: rest.names).map fun n => (n, shown row n))) :
    Legible row (.slot text name rest) := by
  induction rest generalizing name text with
  | literal last => trivial
  | slot separator next more ih =>
    generalize whole : (shown row name).toList ++ (Template.slot separator next more).render row = s
      at divided
    generalize read : (name :: (Template.slot separator next more).names).map
      (fun n => (n, shown row n)) = pairs at divided
    cases divided with
    | uncut absent => simp [names] at read
    | @cut _ _ _ value left _ _ pairs' first further =>
      obtain ⟨here, later⟩ := List.cons.inj read
      have value_eq : value = (shown row name).toList := by simp [(Prod.mk.inj here).2]
      subst value_eq
      have left_eq : left = (shown row next).toList ++ more.render row := by
        have split := whole.trans first.whole
        rw [render_slot, List.append_assoc] at split
        exact (List.append_cancel_left (List.append_cancel_left split)).symm
      subst left_eq
      subst later
      exact ⟨separates_of_firstAt first, ih separator further⟩

theorem fit_render_iff {row : Row} {t : Template} :
    t.fit (t.render row) = some (t.names.map fun name => (name, shown row name)) ↔
      t.Legible row := by
  constructor
  · intro read
    cases t with
    | literal text => trivial
    | slot text name rest =>
      rw [fit_eq_some_iff, render_slot] at read
      generalize whole : text ++ ((shown row name).toList ++ rest.render row) = s at read
      cases read with
      | slot divided =>
        obtain rfl := List.append_cancel_left whole
        exact legible_of_divides text divided
  · exact fit_render

section Divided

variable {row : Row} {name : String} {rest : Template} {s : List Char}
  {pairs : List (String × String)}

theorem shown_of_own {value : List Char}
    (own : ∀ p ∈ (name, String.ofList value) :: pairs, row.get? p.1 = some p.2) :
    (shown row name).toList = value := by
  have found := own _ List.mem_cons_self
  simp [shown, found]

theorem Divides.leads (divided : Divides name rest s pairs)
    (own : ∀ p ∈ pairs, row.get? p.1 = some p.2) :
    s <+: (shown row name).toList ++ rest.render row := by
  induction divided with
  | ended =>
    rw [shown_of_own own]
    exact List.prefix_refl _
  | unended absent =>
    rw [shown_of_own own]
    exact List.prefix_append _ _
  | @cut name next separator value left s rest more first further ih =>
    have later := ih fun p member => own p (by simp [member])
    rw [shown_of_own own, render_slot, first.whole, List.append_assoc]
    exact (List.prefix_append_right_inj _).mpr ((List.prefix_append_right_inj _).mpr later)
  | uncut absent =>
    rw [shown_of_own own]
    exact List.prefix_append _ _

theorem Divides.completes (divided : Divides name rest s pairs)
    (own : ∀ p ∈ pairs, row.get? p.1 = some p.2) (all : rest.names.length < pairs.length) :
    (shown row name).toList ++ rest.render row = s ∨
      (shown row name).toList ++ rest.render row = s ++ rest.ending := by
  induction divided with
  | ended =>
    rw [shown_of_own own, render]
    exact Or.inl rfl
  | unended absent =>
    rw [shown_of_own own, render]
    exact Or.inr rfl
  | @cut name next separator value left s rest more first further ih =>
    have later := ih (fun p member => own p (by simp [member]))
      (by simpa [names] using all)
    rw [shown_of_own own, render_slot, first.whole, ending]
    rcases later with same | ended
    · left
      rw [same, List.append_assoc]
    · right
      rw [ended]
      simp only [List.append_assoc]
  | uncut absent =>
    -- Behind a separator that is missing stands at least one placeholder without a value.
    simp [names] at all

end Divided

theorem fit_leads {t : Template} {s : List Char} {pairs : List (String × String)}
    (fits : t.fit s = some pairs) {row : Row} (own : ∀ p ∈ pairs, row.get? p.1 = some p.2) :
    s <+: t.render row := by
  cases (fit_eq_some_iff t s pairs).mp fits with
  | literal => exact List.prefix_refl s
  | slot divided =>
    rw [render_slot]
    exact (List.prefix_append_right_inj _).mpr (divided.leads own)

theorem fit_completes {t : Template} {s : List Char} {pairs : List (String × String)}
    (fits : t.fit s = some pairs) {row : Row} (own : ∀ p ∈ pairs, row.get? p.1 = some p.2)
    (all : t.names.length ≤ pairs.length) :
    t.render row = s ∨ t.render row = s ++ t.ending := by
  cases (fit_eq_some_iff t s pairs).mp fits with
  | literal => exact Or.inl rfl
  | slot divided =>
    rw [render_slot, ending, List.append_assoc]
    exact (divided.completes own all).imp (congrArg _) (congrArg _)

theorem render_of_fit_literal {t : Template} (literal : t.names = []) {s : List Char}
    {pairs : List (String × String)} (fits : t.fit s = some pairs) (row : Row) :
    t.render row = s := by
  cases (fit_eq_some_iff t s pairs).mp fits with
  | literal => rfl
  | slot divided => simp [names] at literal

end Template

theorem Level.fit_render_iff {level : Level} {row : Row} :
    level.fit (level.render row) =
        some (level.names.map fun name => (name, Template.shown row name)) ↔
      level.template.Legible row := by
  rw [← Template.fit_render_iff, fit, render, String.toList_ofList, names]

/-- The row's line gives its values back exactly when in each value with the literal behind it,
between two placeholders, the literal first occurs right behind the value. -/
theorem line_reads_back_iff (level : Level) (row : Row) :
    let t := level.template
    let shown := fun name => (Template.shown row name).toList
    t.format = level.format.toList ∧
    (level.fit (level.render row) =
        some (level.names.map fun name => (name, Template.shown row name)) ↔
      ∀ k, k + 1 < level.names.length → ∀ name separator, level.names[k]? = some name →
        t.literals[k + 1]? = some separator →
          Text.FirstAt separator (shown name) [] (shown name ++ separator)) ∧
    ∀ name, level.names = [name] →
      level.fit (level.render row) = some [(name, Template.shown row name)] := by
  intro t shown
  refine ⟨Template.format_read level.format, ?_, ?_⟩
  · rw [Level.fit_render_iff, Template.legible_iff]
    simp only [Template.firstAt_own_iff, shown]
    rfl
  · intro name single
    have legible : t.Legible row := by
      rw [Template.legible_iff]
      intro k inside
      have short : t.names.length = 1 := congrArg List.length single
      omega
    rw [Level.fit_render_iff.mpr legible, single, List.map_singleton]

namespace Sample

def encore : Row := Table.ofList [("n", "01"), ("title", "Run - Live")]

def medley : Row := Table.ofList [("n", "1 - 2"), ("title", "Run")]

end Sample

theorem line_reads_back_iff_disc :
    Sample.disc.render Sample.encore = "CD 01 - Run - Live." ∧
      Sample.disc.fit "CD 01 - Run - Live." = some [("n", "01"), ("title", "Run - Live")] ∧
      Text.FirstAt " - ".toList "01".toList [] "01 - ".toList ∧
      Sample.disc.render Sample.medley = "CD 1 - 2 - Run." ∧
      Sample.disc.fit "CD 1 - 2 - Run." = some [("n", "1"), ("title", "2 - Run")] ∧
      ¬ Text.FirstAt " - ".toList "1 - 2".toList [] "1 - 2 - ".toList := by
  have read : Sample.disc.fit (Sample.disc.render Sample.encore) =
      some (Sample.disc.names.map fun name => (name, Template.shown Sample.encore name)) := by
    decide
  obtain ⟨_, iff, _⟩ := line_reads_back_iff Sample.disc Sample.encore
  obtain ⟨_, iff', _⟩ := line_reads_back_iff Sample.disc Sample.medley
  have places : ∀ k name separator, k + 1 < Sample.disc.names.length →
      Sample.disc.names[k]? = some name → Sample.disc.template.literals[k + 1]? = some separator →
      name = "n" ∧ separator = " - ".toList := by
    intro k name separator inside at_name at_literal
    obtain rfl : k = 0 := by
      have two : Sample.disc.names.length = 2 := by decide
      omega
    exact ⟨(Option.some.inj at_name).symm, (Option.some.inj at_literal).symm⟩
  refine ⟨by decide, by decide, ?_, by decide, by decide, ?_⟩
  · exact iff.mp read 0 (by decide) "n" " - ".toList (by decide) (by decide)
  · intro first
    have misread : Sample.disc.fit (Sample.disc.render Sample.medley) ≠
        some (Sample.disc.names.map fun name => (name, Template.shown Sample.medley name)) := by
      decide
    refine misread (iff'.mpr ?_)
    intro k inside name separator at_name at_literal
    obtain ⟨rfl, rfl⟩ := places k name separator inside at_name at_literal
    exact first

theorem values_keep_token {level : Level} (once : level.names.Nodup) {token : String}
    {pairs : List (String × String)} (fits : level.fit token = some pairs) :
    let line := level.render (Table.ofList pairs)
    token.toList <+: line.toList ∧
      ((∀ name ∈ level.names, name ∈ pairs.map Prod.fst) →
        line = token ∨ line = token ++ String.ofList level.template.ending) ∧
      (level.names = [] → line = token) := by
  intro line
  have front : pairs.map Prod.fst <+: level.names := Template.fit_names_front fits
  have own : ∀ p ∈ pairs, (Table.ofList pairs).get? p.1 = some p.2 := by
    intro p member
    exact Table.get?_insertAll_of_mem Table.empty (front.sublist.nodup once) member
  have text : line.toList = level.template.render (Table.ofList pairs) := String.toList_ofList
  refine ⟨?_, ?_, ?_⟩
  · rw [text]
    exact Template.fit_leads fits own
  · intro bound
    have all : level.template.names.length ≤ pairs.length := by
      have fewer := once.length_le_of_subset bound
      rwa [List.length_map] at fewer
    rw [← String.toList_inj, ← String.toList_inj, String.toList_append, String.toList_ofList, text]
    exact Template.fit_completes fits own all
  · intro literal
    rw [← String.toList_inj, text]
    exact Template.render_of_fit_literal literal fits _

theorem values_keep_token_disc :
    Sample.disc.names.Nodup ∧
      Sample.disc.fit "CD 01 - Run" = some [("n", "01"), ("title", "Run")] ∧
      (∀ name ∈ Sample.disc.names, name ∈ ["n", "title"]) ∧
      Sample.disc.render (Table.ofList [("n", "01"), ("title", "Run")]) = "CD 01 - Run" ++ "." ∧
      Sample.disc.fit "CD 01 -" = some [("n", "01 -")] ∧
      "CD 01 -".toList <+: "CD 01 - - .".toList := by
  have once : Sample.disc.names.Nodup := by decide
  have fits : Sample.disc.fit "CD 01 - Run" = some [("n", "01"), ("title", "Run")] := by decide
  have fits' : Sample.disc.fit "CD 01 -" = some [("n", "01 -")] := by decide
  obtain ⟨_, ended, _⟩ := values_keep_token once fits
  obtain ⟨leads, _⟩ := values_keep_token once fits'
  have line : Sample.disc.render (Table.ofList [("n", "01 -")]) = "CD 01 - - ." := by decide
  rw [line] at leads
  have bound : ∀ name ∈ Sample.disc.names, name ∈ ["n", "title"] := by decide
  refine ⟨once, fits, bound, ?_, fits', leads⟩
  rcases ended bound with same | longer
  · exact absurd same (by decide)
  · exact longer

end MediaPaths
