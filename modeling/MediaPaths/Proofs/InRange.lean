import MediaPaths.Proofs.Position

/-!
Walking a rule by index. The levels are gone through with a counter, elements are looked up at it,
and a level behind the stopping point is taken out of the rule by number. Every subtraction here
fails below zero and every access beyond the end, and none of them ever does: the walk by index is
the walk (`Rule.walk?_eq`), and each query by index answers with the level that the query gives.
That rests on two facts: a rule has a level, without which `Rule.compile` gives none, and a position
is the index of a level.
-/
namespace MediaPaths

def minus? (m n : Nat) : Option Nat := if n ≤ m then some (m - n) else none

def tailFrom? {α : Type} (xs : List α) (index : Nat) : Option (List α) :=
  if index ≤ xs.length then some (xs.drop index) else none

def Rule.lastIndex? (rule : Rule) : Option Nat := minus? rule.levels.length 1

namespace Walk

def turn? (es : List String) (index : Nat) (level : Level) (w : Walk) : Option (Walk × Bool) :=
  let met := { w with fields := w.fields ++ level.names }
  match es[index]? with
  | none =>
    match tailFrom? w.rule.levels (index + 1) with
    | none => none
    | some rest => some ({ met with fields := met.fields ++ rest.flatMap Level.names }, false)
  | some e =>
    let reached := { met with position := some index }
    match minus? es.length 1 with
    | none => none
    | some last =>
      let features := Features.scan e
      if index = last ∧ features.multimatch then some ({ reached with pending := some e }, false)
      else if features.isEmpty then some (reached, true)
      else
        let chosen := { reached with settled := reached.settled || index = last }
        match level.fit e with
        | some values => some ({ chosen with bindings := chosen.bindings.insertAll values }, true)
        | none => some (chosen, true)

def turns? (es : List String) : List Level → Nat → Walk → Option Walk
  | [], _, w => some w
  | level :: levels, index, w =>
    match turn? es index level w with
    | none => none
    | some (w, false) => some w
    | some (w, true) => turns? es levels (index + 1) w

def next? (w : Walk) : Option Level :=
  match w.position with
  | none => w.rule.level? 0
  | some index =>
    match w.rule.lastIndex? with
    | none => none
    | some last => w.rule.level? (min (index + 1) last)

def isFull? (w : Walk) : Option Bool := w.rule.lastIndex?.map fun last => w.position == some last

def target? (w : Walk) : Option Level :=
  match w.current with
  | some level => some level
  | none => w.next?

/-- Whether the walk is full is only asked of a settled one. -/
def browseLevel? (w : Walk) : Option Level :=
  if w.settled then
    match w.isFull? with
    | none => none
    | some full => if full then w.target? else w.next?
  else w.target?

end Walk

def Rule.walk? (rule : Rule) (path : String) : Option Walk :=
  Walk.turns? (elements path) rule.levels 0 (Walk.start rule [])

namespace Walk

section Turns

variable {es : List String} {index : Nat} {w : Walk}

@[simp] theorem record_rule (w : Walk) (step : Step) : (w.record step).rule = w.rule := by
  unfold record
  split <;> rfl

theorem record_fields (w : Walk) (fields : List String) (step : Step) :
    ({ w with fields := fields } : Walk).record step =
      { w.record step with fields := fields } := by
  unfold record
  split <;> rfl

theorem settled_record (unsettled : w.settled = false) (index : Nat) (level : Level) (e : String) :
    (w.record ⟨index, level, Step.visit level e false⟩).settled = false := by
  rw [Step.visit_matched level e false (Or.inl rfl)]
  by_cases empty : e = ""
  · simpa [empty, record] using unsettled
  · cases level.fit e <;> simp [empty, record]

theorem turn?_end (level : Level) (none_left : es.drop index = [])
    (inside : index < w.rule.levels.length) : turn? es index level w =
      some ({ w with fields := w.fields ++ level.names ++
        (w.rule.levels.drop (index + 1)).flatMap Level.names }, false) := by
  have absent : es[index]? = none := List.getElem?_eq_none (List.drop_eq_nil_iff.mp none_left)
  simp only [turn?, absent, tailFrom?, if_pos (Nat.succ_le_of_lt inside)]

theorem element_found {e : String} {rest : List String} (here : es.drop index = e :: rest) :
    es[index]? = some e ∧ minus? es.length 1 = some (es.length - 1) ∧
      (index = es.length - 1 ↔ rest = []) := by
  have counted := congrArg List.length here
  rw [List.length_drop, List.length_cons] at counted
  refine ⟨?_, if_pos (by omega), ?_⟩
  · rw [← List.head?_drop, here, List.head?_cons]
  · rw [← List.length_eq_zero_iff]
    omega

theorem turn?_pending (level : Level) {e : String} (here : es.drop index = [e])
    (wild : hasWildcard e = true) : turn? es index level w =
      some (record { w with fields := w.fields ++ level.names } ⟨index, level, .multimatch e⟩,
        false) := by
  obtain ⟨found, last, final⟩ := element_found here
  have multi : (Features.scan e).multimatch = true := wild
  simp [turn?, found, last, final, multi, record]

theorem turn?_matched (level : Level) {e : String} {rest : List String}
    (here : es.drop index = e :: rest) (goesOn : rest ≠ [] ∨ hasWildcard e = false)
    (unsettled : w.settled = false) : turn? es index level w =
      some (record { w with fields := w.fields ++ level.names }
        ⟨index, level, Step.visit level e rest.isEmpty⟩, true) := by
  obtain ⟨found, last, final⟩ := element_found here
  have multi : (Features.scan e).multimatch = hasWildcard e := rfl
  have empty : (Features.scan e).isEmpty = true ↔ e = "" := by simp [Features.scan]
  have matched : ¬(rest = [] ∧ hasWildcard e = true) := by
    rcases goesOn with more | plain
    · exact fun stops => more stops.1
    · simp [plain]
  simp only [turn?, found, last, final, empty, multi, if_neg matched]
  rw [Step.visit_matched level e rest.isEmpty (goesOn.imp_left List.isEmpty_eq_false_iff.mpr)]
  by_cases blank : e = ""
  · simp [blank, record]
  · by_cases ends : rest = []
    · cases level.fit e <;> simp [blank, ends, record]
    · cases level.fit e <;> simp [blank, ends, record, unsettled]

/-- Going on by index from any level is going on along the levels and elements that are left. -/
theorem turns?_eq {levels : List Level} (ahead : w.rule.levels.drop index = levels)
    (unsettled : es.drop index ≠ [] → w.settled = false) :
    turns? es levels index w =
      let steps := Step.along index levels (es.drop index)
      some (steps.foldl record { w with fields := w.fields ++ steps.flatMap w.rule.fieldsMet }) := by
  induction levels generalizing index w with
  | nil => simp [turns?, Step.along]
  | cons level levels ih =>
    obtain ⟨inside, further⟩ := drop_next ahead
    cases here : es.drop index with
    | nil =>
      rw [turns?, turn?_end level here inside]
      simp [Step.along_nil, Rule.fieldsMet, ahead, further, record]
    | cons e rest =>
      obtain ⟨-, behind⟩ := drop_next here
      by_cases goesOn : rest ≠ [] ∨ hasWildcard e = false
      · have undecided := unsettled (by simp [here])
        -- While elements are left, the turn leaves a walk that is unsettled again.
        let reached : Walk :=
          { w.record ⟨index, level, Step.visit level e rest.isEmpty⟩ with
            fields := w.fields ++ level.names }
        have ahead' : reached.rule.levels.drop (index + 1) = levels := by
          simpa [reached] using further
        have unsettled' : es.drop (index + 1) ≠ [] → reached.settled = false := by
          intro more
          rw [behind, ← List.isEmpty_eq_false_iff] at more
          simp only [reached, more]
          exact settled_record undecided index level e
        rw [turns?, turn?_matched level here goesOn undecided, record_fields,
          Step.along_goes_on index level levels e rest goesOn]
        refine (ih ahead' unsettled').trans ?_
        simp [reached, behind, record_fields, Rule.fieldsMet_visit]
      · obtain ⟨rfl, wild⟩ : rest = [] ∧ hasWildcard e = true := by simpa using goesOn
        rw [turns?, turn?_pending level here wild, Step.along_single_open index level levels wild]
        simp [record_fields, Rule.fieldsMet]

end Turns

end Walk

namespace Rule

variable (rule : Rule)

theorem walk?_eq (path : String) : rule.walk? path = some (rule.walk path) := by
  have along := Walk.turns?_eq (w := Walk.start rule []) (List.drop_zero (l := rule.levels))
    fun (_ : (elements path).drop 0 ≠ []) => rfl
  rw [walk?, along]
  simp [walk, steps, Walk.start]

theorem lastIndex?_eq : rule.lastIndex? = some rule.lastIndex :=
  if_pos rule.length_pos

theorem level?_clamped (i : Nat) :
    rule.level? (min i rule.lastIndex) = some (rule.levelAt i) := by
  have same : min (min i rule.lastIndex) rule.lastIndex = min i rule.lastIndex := by omega
  rw [rule.level?_eq_levelAt (Nat.min_le_right i rule.lastIndex), rule.levelAt_congr same]

end Rule

namespace Walk

section Queries

variable (w : Walk)

theorem isFull?_eq : w.isFull? = some w.isFull := by
  rw [isFull?, w.rule.lastIndex?_eq, Option.map_some, isFull]

theorem next?_eq : w.next? = some w.next := by
  unfold next? next
  cases w.position with
  | none =>
    have first := w.rule.level?_clamped 0
    rwa [Nat.zero_min] at first
  | some i =>
    simp only [w.rule.lastIndex?_eq]
    exact w.rule.level?_clamped (i + 1)

theorem target?_eq : w.target? = some w.target := by
  unfold target? target
  cases w.current with
  | none => exact w.next?_eq
  | some level => rfl

theorem browseLevel?_eq : w.browseLevel? = some w.browseLevel := by
  simp only [browseLevel?, browseLevel, w.isFull?_eq, w.next?_eq, w.target?_eq]
  cases w.settled <;> cases w.isFull <;> rfl

/-- A level of the rule at the position of the walk or right behind it, and the first level where
the walk has no position. -/
def Borders (w : Walk) (level : Level) : Prop :=
  match w.position with
  | none => w.rule.level? 0 = some level
  | some i => w.rule.level? i = some level ∨ w.rule.level? (i + 1) = some level

variable {w} (inside : ∀ i, w.position = some i → i ≤ w.rule.lastIndex)
include inside

theorem borders_next : w.Borders w.next := by
  have answered := w.next?_eq
  unfold next? at answered
  unfold Borders
  cases stopped : w.position with
  | none => simpa only [stopped] using answered
  | some i =>
    simp only [stopped, w.rule.lastIndex?_eq] at answered ⊢
    have near := inside i stopped
    by_cases deepest : i = w.rule.lastIndex
    · left
      rwa [Nat.min_eq_right (by omega), ← deepest] at answered
    · right
      rwa [Nat.min_eq_left (by omega)] at answered

theorem current_eq_none_iff : w.current = none ↔ w.position = none := by
  unfold current
  cases stopped : w.position with
  | none => simp
  | some i => simp [w.rule.level?_eq_levelAt (inside i stopped)]

theorem borders_target : w.Borders w.target := by
  unfold target
  cases here : w.current with
  | none => exact borders_next inside
  | some level =>
    obtain ⟨i, stopped, found⟩ := Option.bind_eq_some_iff.mp here
    simp only [Borders, stopped, Option.getD_some]
    exact Or.inl found

theorem borders_browseLevel : w.Borders w.browseLevel := by
  unfold browseLevel
  split
  · exact borders_next inside
  · exact borders_target inside

omit inside in
theorem current_of_isFull (full : w.isFull = true) : w.current = some w.browseLevel := by
  have stopped : w.position = some w.rule.lastIndex := by simpa [isFull] using full
  have here : w.current = some (w.rule.levelAt w.rule.lastIndex) := by
    rw [current, stopped, Option.bind_some, w.rule.level?_eq_levelAt (Nat.le_refl _)]
  have listed : w.browseLevel = w.target := by simp [browseLevel, full]
  rw [listed, target, here, Option.getD_some]

end Queries

theorem position_le_lastIndex {rule : Rule} {path : String} {i : Nat}
    (stopped : (rule.walk path).position = some i) : i ≤ rule.lastIndex := by
  rw [rule.walk_eq] at stopped
  have counted := index_of_stop_some stopped
  rw [Rule.lastIndex]
  omega

end Walk

theorem walk_stays_in_range (rule : Rule) (path : String) :
    let w := rule.walk path
    rule.walk? path = some w ∧ rule.lastIndex? = some rule.lastIndex ∧
      (∀ i, w.position = some i → i ≤ rule.lastIndex) ∧
      (w.current = none ↔ w.position = none) ∧ w.isFull? = some w.isFull ∧
      (w.next? = some w.next ∧ w.Borders w.next) ∧
      (w.target? = some w.target ∧ w.Borders w.target) ∧
      (w.browseLevel? = some w.browseLevel ∧ w.Borders w.browseLevel) ∧
      (w.isFull = true → w.current = some w.browseLevel) := by
  intro w
  have inside : ∀ i, w.position = some i → i ≤ w.rule.lastIndex := by
    intro i stopped
    rw [rule.rule_walk]
    exact Walk.position_le_lastIndex stopped
  refine ⟨rule.walk?_eq path, rule.lastIndex?_eq, ?_, Walk.current_eq_none_iff inside,
    w.isFull?_eq, ⟨w.next?_eq, Walk.borders_next inside⟩, ⟨w.target?_eq, Walk.borders_target inside⟩,
    ⟨w.browseLevel?_eq, Walk.borders_browseLevel inside⟩, Walk.current_of_isFull⟩
  intro i stopped
  exact Walk.position_le_lastIndex stopped

/-- The checks are not idle: behind the last level the same turn would reach beyond the end. -/
example : Walk.turn? [] 1 Sample.track (Walk.start Sample.rule []) ≠ none ∧
    Walk.turn? [] 2 Sample.track (Walk.start Sample.rule []) = none := by
  decide

end MediaPaths
