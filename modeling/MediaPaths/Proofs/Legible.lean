import MediaPaths.Level

/-!
Rendering a row and fitting the line back. A row is legible in a template when the literal between
any two placeholders marks the end of the value before it: in the value and the literal, the literal
occurs first at its own place. A legible row is read back from its line, whatever else the values
hold.
-/
namespace MediaPaths

namespace Template

def shown (row : Row) (name : String) : String := (row.get? name).getD ""

def Separates (separator value : List Char) : Prop :=
  ∀ before after, value ++ separator = before ++ separator ++ after → value.length ≤ before.length

/-- What follows the last placeholder can do no harm. -/
def Legible (row : Row) : Template → Prop
  | .slot _ name (.slot separator next rest) =>
    Separates separator (shown row name).toList ∧ Legible row (.slot separator next rest)
  | _ => True

theorem separates_iff (separator value : List Char) : Separates separator value ↔
    ∀ n < value.length, Text.afterLead? separator ((value ++ separator).drop n) = none := by
  constructor
  · intro separates n inside
    cases found : Text.afterLead? separator ((value ++ separator).drop n) with
    | none => rfl
    | some after =>
      have split : value ++ separator =
          (value ++ separator).take n ++ separator ++ after := by
        rw [List.append_assoc, ← Text.afterLead?_eq_some_iff.mp found, List.take_append_drop]
      have far := separates _ _ split
      rw [List.length_take] at far
      omega
  · intro absent before after split
    by_cases inside : before.length < value.length
    · have found : (value ++ separator).drop before.length = separator ++ after := by
        rw [split, List.append_assoc, List.drop_left]
      have none := absent before.length inside
      rw [found, Text.afterLead?_append] at none
      cases none
    · omega

instance (separator value : List Char) : Decidable (Separates separator value) :=
  decidable_of_iff _ (separates_iff separator value).symm

instance decidableLegible (row : Row) : (t : Template) → Decidable (t.Legible row)
  | .slot _ _ (.slot separator next rest) =>
    have := decidableLegible row (.slot separator next rest)
    inferInstanceAs (Decidable (_ ∧ _))
  | .slot _ _ (.literal _) => isTrue trivial
  | .literal _ => isTrue trivial

theorem render_slot (row : Row) (text : List Char) (name : String) (rest : Template) :
    (Template.slot text name rest).render row =
      text ++ ((shown row name).toList ++ rest.render row) := by
  simp [render, shown]

theorem shown_eq {row : Row} {name : String} (present : (row.get? name).isSome = true) :
    row.get? name = some (shown row name) := by
  obtain ⟨value, found⟩ := Option.isSome_iff_exists.mp present
  simp [shown, found]

theorem no_lead_before {separator value : List Char} (separates : Separates separator value)
    {front back : List Char} (cut : value = front ++ back) (inside : back ≠ [])
    (after : List Char) : Text.afterLead? separator (back ++ (separator ++ after)) = none := by
  cases found : Text.afterLead? separator (back ++ (separator ++ after)) with
  | none => rfl
  | some rest =>
    have whole := Text.afterLead?_eq_some_iff.mp found
    have lead : separator <+: back ++ (separator ++ after) := ⟨rest, whole.symm⟩
    have near : back ++ separator <+: back ++ (separator ++ after) :=
      ⟨after, List.append_assoc back separator after⟩
    have within_near := List.prefix_of_prefix_length_le lead near (by simp)
    obtain ⟨tail, within⟩ := within_near
    have far := separates front tail (by rw [cut, List.append_assoc, ← within, List.append_assoc])
    have some_back := List.length_pos_iff.mpr inside
    rw [cut, List.length_append] at far
    omega

/-- A placeholder ends at the first place where the rest of the template fits. -/
theorem capture_first {rest : List Char → Option (List (String × String))} (name : String)
    (held : List Char) {value s : List Char} {more : List (String × String)}
    (fits : rest s = some more)
    (sooner : ∀ front back, value = front ++ back → back ≠ [] → rest (back ++ s) = none) :
    capture rest name held (value ++ s) =
      some ((name, String.ofList (held.reverse ++ value)) :: more) := by
  induction value generalizing held with
  | nil => cases s <;> simp_all [capture]
  | cons c value ih =>
    have here : rest (c :: (value ++ s)) = none := sooner [] (c :: value) rfl (by simp)
    have later := ih (c :: held) fun front back cut inside =>
      sooner (c :: front) back (by rw [cut, List.cons_append]) inside
    simp only [List.cons_append, capture, here, later, List.reverse_cons, List.append_assoc,
      List.nil_append]

theorem fit_render {row : Row} {t : Template} (legible : t.Legible row) :
    t.fit (t.render row) = some (t.names.map fun name => (name, shown row name)) := by
  induction t with
  | literal text => simp [fit, render, names]
  | slot text name rest ih =>
    have value : String.ofList (([] : List Char).reverse ++ (shown row name).toList) =
        shown row name := by simp
    simp only [fit, render_slot, Text.afterLead?_append]
    cases rest with
    | literal last =>
      rw [capture_first name [] (ih trivial), value]
      · rfl
      · intro front back _ inside
        simp [fit, render, inside]
    | slot separator next more =>
      rw [capture_first name [] (ih legible.2), value]
      · rfl
      · intro front back cut inside
        have missing := no_lead_before legible.1 cut inside
          ((shown row next).toList ++ more.render row)
        simp only [render, fit, List.append_assoc] at missing ⊢
        simp only [shown] at missing
        rw [missing]

theorem render_congr {row other : Row} {t : Template}
    (agree : ∀ name ∈ t.names, row.get? name = other.get? name) :
    t.render row = t.render other := by
  induction t with
  | literal text => rfl
  | slot text name rest ih =>
    have here := agree name (by simp [names])
    have later := ih fun n member => agree n (by simp [names, member])
    simp [render, here, later]

theorem shown_eq_of_render_eq {row other : Row} {t : Template} (legible : t.Legible row)
    (legible' : t.Legible other) (same : t.render row = t.render other) :
    ∀ name ∈ t.names, shown row name = shown other name := by
  have read : t.names.map (fun name => (name, shown row name)) =
      t.names.map fun name => (name, shown other name) := by
    apply Option.some.inj
    rw [← fit_render legible, ← fit_render legible', same]
  intro name member
  exact congrArg Prod.snd (List.map_inj_left.mp read name member)

theorem capture_split {rest : List Char → Option (List (String × String))} {name : String}
    {held s : List Char} {pairs : List (String × String)}
    (h : capture rest name held s = some pairs) :
    ∃ value left more, s = value ++ left ∧
      pairs = (name, String.ofList (held.reverse ++ value)) :: more ∧
      (rest left = some more ∨ more = []) := by
  induction s generalizing held with
  | nil =>
    cases fits : rest [] with
    | none => exact ⟨[], [], [], rfl, by simpa [capture, fits] using h.symm, Or.inr rfl⟩
    | some more => exact ⟨[], [], more, rfl, by simpa [capture, fits] using h.symm, Or.inl fits⟩
  | cons c s ih =>
    cases fits : rest (c :: s) with
    | some more =>
      exact ⟨[], c :: s, more, rfl, by simpa [capture, fits] using h.symm, Or.inl fits⟩
    | none =>
      simp only [capture, fits] at h
      obtain ⟨value, left, more, cut, eq, tail⟩ := ih h
      exact ⟨c :: value, left, more, by rw [cut, List.cons_append], by simpa using eq, tail⟩

theorem fit_bounds {t : Template} {s : List Char} {pairs : List (String × String)}
    (h : t.fit s = some pairs) : ∀ p ∈ pairs, p.1 ∈ t.names ∧ p.2.toList <:+: s := by
  induction t generalizing s pairs with
  | literal text =>
    by_cases whole : s = text
    · simp only [fit, whole, ↓reduceIte, Option.some.injEq] at h
      simp [← h]
    · simp [fit, whole] at h
  | slot text name rest ih =>
    cases found : Text.afterLead? text s with
    | none => simp [fit, found] at h
    | some s' =>
      simp only [fit, found] at h
      have split := Text.afterLead?_eq_some_iff.mp found
      obtain ⟨value, left, more, cut, eq, tail⟩ := capture_split h
      intro p member
      rw [eq] at member
      rcases List.mem_cons.mp member with first | later
      · rw [first]
        refine ⟨by simp [names], text, left, ?_⟩
        simp [split, cut]
      · rcases tail with fits | none
        · obtain ⟨known, piece⟩ := ih fits p later
          refine ⟨by simp [names, known], piece.trans (List.IsSuffix.isInfix ?_)⟩
          exact ⟨text ++ value, by rw [split, cut, List.append_assoc]⟩
        · simp [none] at later

theorem fit_names_front {t : Template} {s : List Char} {pairs : List (String × String)}
    (h : t.fit s = some pairs) : pairs.map Prod.fst <+: t.names := by
  induction t generalizing s pairs with
  | literal text =>
    by_cases whole : s = text
    · simp only [fit, whole, ↓reduceIte, Option.some.injEq] at h
      simp [← h]
    · simp [fit, whole] at h
  | slot text name rest ih =>
    cases found : Text.afterLead? text s with
    | none => simp [fit, found] at h
    | some s' =>
      simp only [fit, found] at h
      obtain ⟨value, left, more, _, rfl, tail⟩ := capture_split h
      simp only [List.map_cons, names]
      apply (List.prefix_cons_inj name).mpr
      rcases tail with fits | none
      · exact ih fits
      · simp [none]

end Template

namespace Level

theorem fit_render {level : Level} {row : Row} (legible : level.template.Legible row) :
    level.fit (level.render row) =
      some (level.names.map fun name => (name, Template.shown row name)) := by
  simpa [fit, render, names] using Template.fit_render legible

theorem render_congr {level : Level} {row other : Row}
    (agree : ∀ name ∈ level.names, row.get? name = other.get? name) :
    level.render row = level.render other :=
  congrArg String.ofList (Template.render_congr agree)

theorem template_render_eq {level : Level} {row other : Row}
    (same : level.render row = level.render other) :
    level.template.render row = level.template.render other := by
  simpa [render] using congrArg String.toList same

end Level

end MediaPaths
