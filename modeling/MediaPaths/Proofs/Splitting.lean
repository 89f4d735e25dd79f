import MediaPaths.Proofs.LeftmostFirst
import MediaPaths.Proofs.Legible

/-!
Fitting a token to a level needs no search. After the literal in front, each value ends where the
literal behind its placeholder first occurs, and the last value ends before the last literal, if the
token ends with that. Where a literal does not occur, the value in front of it takes all that is
left and the later placeholders get nothing.
-/
namespace MediaPaths

namespace Template

def lead : Template → List Char
  | .literal text => text
  | .slot text _ _ => text

/-- What a text gives to a name and to the names of the template behind it. -/
inductive Divides : String → Template → List Char → List (String × String) → Prop where
  | ended {name : String} {value last : List Char} :
      Divides name (.literal last) (value ++ last) [(name, String.ofList value)]
  | unended {name : String} {last s : List Char} (absent : ¬ last <:+ s) :
      Divides name (.literal last) s [(name, String.ofList s)]
  | cut {name next : String} {separator value left s : List Char} {rest : Template}
      {more : List (String × String)} (first : Text.FirstAt separator value left s)
      (further : Divides next rest left more) :
      Divides name (.slot separator next rest) s ((name, String.ofList value) :: more)
  | uncut {name next : String} {separator s : List Char} {rest : Template}
      (absent : ¬ separator <:+: s) :
      Divides name (.slot separator next rest) s [(name, String.ofList s)]

inductive Splits : Template → List Char → List (String × String) → Prop where
  | literal {text : List Char} : Splits (.literal text) text []
  | slot {text s : List Char} {name : String} {rest : Template} {pairs : List (String × String)}
      (divided : Divides name rest s pairs) : Splits (.slot text name rest) (text ++ s) pairs

theorem Divides.unique {name : String} {rest : Template} {s : List Char}
    {pairs pairs' : List (String × String)} (divided : Divides name rest s pairs)
    (divided' : Divides name rest s pairs') : pairs = pairs' := by
  induction divided generalizing pairs' with
  | @ended name value last =>
    generalize whole : value ++ last = s at divided'
    cases divided' with
    | ended => rw [List.append_cancel_right whole]
    | unended absent => exact absurd ⟨value, whole⟩ absent
  | @unended name last s absent =>
    cases divided' with
    | @ended _ value => exact absurd (List.suffix_append value last) absent
    | unended => rfl
  | cut first further ih =>
    cases divided' with
    | cut first' further' =>
      obtain ⟨rfl, rfl⟩ := first.unique first'
      rw [ih further']
    | uncut absent => exact absurd ⟨_, _, first.whole.symm⟩ absent
  | uncut absent =>
    cases divided' with
    | cut first _ => exact absurd ⟨_, _, first.whole.symm⟩ absent
    | uncut => rfl

theorem capture_all {rest : List Char → Option (List (String × String))} (name : String)
    {held s : List Char} (nowhere : ∀ back, back <:+ s → rest back = none) :
    capture rest name held s = some [(name, String.ofList (held.reverse ++ s))] := by
  induction s generalizing held with
  | nil =>
    have here := nowhere [] (List.suffix_refl [])
    simp [capture, here]
  | cons c s ih =>
    have here := nowhere (c :: s) (List.suffix_refl _)
    have later : ∀ back, back <:+ s → rest back = none := fun back within =>
      nowhere back (within.trans (List.suffix_cons c s))
    simp [capture, here, ih later]

theorem fit_slot_eq_none {separator s : List Char} (next : String) (rest : Template)
    (absent : Text.afterLead? separator s = none) :
    (Template.slot separator next rest).fit s = none := by
  simp [fit, absent]

theorem separates_of_firstAt {separator value left s : List Char}
    (first : Text.FirstAt separator value left s) : Separates separator value := by
  intro before after sooner
  apply first.soonest before (after ++ left)
  rw [first.whole, sooner, List.append_assoc]

theorem capture_divides (rest : Template) (name : String) (s : List Char) :
    ∃ pairs, capture rest.fit name [] s = some pairs ∧ Divides name rest s pairs := by
  induction rest generalizing name s with
  | literal last =>
    by_cases ends : last <:+ s
    · obtain ⟨value, rfl⟩ := ends
      have fits : (Template.literal last).fit last = some [] := by simp [fit]
      refine ⟨_, capture_first name [] fits ?_, Divides.ended⟩
      intro front back _ inside
      simp [fit, inside]
    · refine ⟨_, capture_all name ?_, Divides.unended ends⟩
      intro back within
      have differs : back ≠ last := fun same => ends (same ▸ within)
      simp [fit, differs]
  | slot separator next rest ih =>
    by_cases occurs : separator <:+: s
    · obtain ⟨value, left, first⟩ := Text.exists_firstAt occurs
      obtain ⟨more, captured, further⟩ := ih next left
      have fits : (Template.slot separator next rest).fit (separator ++ left) = some more := by
        simp only [fit, Text.afterLead?_append, captured]
      -- Before its first occurrence the separator does not lead, so no sooner end will do.
      have separates := separates_of_firstAt first
      have taken := capture_first name [] fits fun front back cut inside =>
        fit_slot_eq_none next rest (no_lead_before separates cut inside left)
      rw [← List.append_assoc, ← first.whole] at taken
      exact ⟨_, taken, Divides.cut first further⟩
    · refine ⟨_, capture_all name ?_, Divides.uncut occurs⟩
      intro back within
      apply fit_slot_eq_none
      rw [Text.afterLead?_eq_none_iff]
      exact fun leads => occurs (leads.isInfix.trans within.isInfix)

theorem fit_eq_some_iff (t : Template) (s : List Char) (pairs : List (String × String)) :
    t.fit s = some pairs ↔ Splits t s pairs := by
  cases t with
  | literal text =>
    by_cases whole : s = text
    · subst whole
      simp only [fit, ↓reduceIte, Option.some.injEq]
      constructor
      · intro nothing
        exact nothing ▸ Splits.literal
      · intro split
        cases split
        rfl
    · simp only [fit, whole, ↓reduceIte, reduceCtorEq, false_iff]
      intro split
      cases split
      exact whole rfl
  | slot text name rest =>
    constructor
    · intro fits
      cases lead : Text.afterLead? text s with
      | none => simp [fit, lead] at fits
      | some left =>
        obtain rfl := Text.afterLead?_eq_some_iff.mp lead
        obtain ⟨pairs', captured, divided⟩ := capture_divides rest name left
        simp only [fit, lead, captured, Option.some.injEq] at fits
        exact Splits.slot (fits ▸ divided)
    · intro split
      cases split with
      | @slot _ left _ _ _ divided =>
        obtain ⟨pairs', captured, divided'⟩ := capture_divides rest name left
        simp only [fit, Text.afterLead?_append, captured, divided.unique divided']

theorem fit_eq_none_iff {t : Template} (slots : t.names ≠ []) (s : List Char) :
    t.fit s = none ↔ ¬ t.lead <+: s := by
  cases t with
  | literal text => exact absurd rfl slots
  | slot text name rest =>
    rw [← Text.afterLead?_eq_none_iff, lead, fit]
    cases Text.afterLead? text s with
    | none => simp
    | some left =>
      obtain ⟨pairs, captured, _⟩ := capture_divides rest name left
      simp [captured]

theorem eq_literal_of_names {t : Template} (literal : t.names = []) : t = .literal t.format := by
  cases t with
  | literal text => rfl
  | slot _ _ _ => cases literal

theorem captures_toExpression (t : Template) : t.toExpression.captures = t.names.length := by
  induction t with
  | literal text => rfl
  | slot text name rest ih =>
    by_cases last : rest = .literal []
    · simp [toExpression, Expression.captures, names, last]
    · simp [toExpression, Expression.captures, names, last, ih, Nat.add_comm]

end Template

theorem token_splits_left_to_right (level : Level) (token : String) :
    let t := level.template
    t.format = level.format.toList ∧
    t.expression = Template.beginning ++ t.toExpression.source ++ ['$'] ∧
    t.toExpression.captures = level.names.length ∧
    level.fit token = (t.toExpression.matchWhole token.toList).map (Expression.bound level.names) ∧
    (∀ pairs, level.fit token = some pairs ↔ t.Splits token.toList pairs) ∧
    (level.names = [] → level.fit token = if token = level.format then some [] else none) ∧
    (level.names ≠ [] → (level.fit token = none ↔ ¬ t.lead <+: token.toList)) ∧
    ∀ pairs, level.fit token = some pairs → pairs.map Prod.fst <+: level.names := by
  intro t
  have format : t.format = level.format.toList := Template.format_read level.format
  refine ⟨format, t.expression_eq, t.captures_toExpression, t.fit_eq_matchWhole token.toList,
    t.fit_eq_some_iff token.toList, ?_, ?_, ?_⟩
  · intro literal
    have text : level.template = .literal level.format.toList := by
      rw [← format]
      exact Template.eq_literal_of_names literal
    have same : token.toList = level.format.toList ↔ token = level.format := String.toList_inj
    simp only [Level.fit, text, Template.fit, same]
  · intro slots
    exact Template.fit_eq_none_iff slots token.toList
  · intro pairs fits
    exact Template.fit_names_front fits

namespace Sample

def disc : Level := ⟨"CD ${n} - ${title}.", by decide, by decide, by decide⟩

end Sample

theorem token_splits_left_to_right_disc :
    Sample.disc.names ≠ [] ∧
      Sample.disc.template.expression = "(?s)^CD (.*?)(?: \\- (.*?)(?:\\.)?)?$".toList ∧
      Sample.disc.fit "CD 01 - Run - Live." = some [("n", "01"), ("title", "Run - Live")] ∧
      Sample.disc.template.Splits "CD 01 - Run - Live.".toList
        [("n", "01"), ("title", "Run - Live")] ∧
      Sample.disc.template.Splits "CD 01 -".toList [("n", "01 -")] ∧
      ¬ Sample.disc.template.lead <+: "01 - Run".toList ∧ Sample.disc.fit "01 - Run" = none := by
  have slots : Sample.disc.names ≠ [] := by decide
  have full : Sample.disc.fit "CD 01 - Run - Live." =
      some [("n", "01"), ("title", "Run - Live")] := by decide
  have short : Sample.disc.fit "CD 01 -" = some [("n", "01 -")] := by decide
  obtain ⟨_, _, _, _, split, _⟩ := token_splits_left_to_right Sample.disc "CD 01 - Run - Live."
  obtain ⟨_, _, _, _, split', _⟩ := token_splits_left_to_right Sample.disc "CD 01 -"
  obtain ⟨_, _, _, _, _, _, refused, _⟩ := token_splits_left_to_right Sample.disc "01 - Run"
  have absent : ¬ Sample.disc.template.lead <+: "01 - Run".toList := by decide
  exact ⟨slots, by decide, full, (split _).mp full, (split' _).mp short, absent,
    (refused slots).mpr absent⟩

end MediaPaths
