import MediaPaths.Filter
import MediaPaths.Proofs.Denotation
import MediaPaths.Proofs.Merge

/-!
The filter of a row of bindings is the conjunction of their conditions: it exists when each
condition does, and accepts what all of them accept.
-/
namespace MediaPaths.Filter

def Demands (field value : String) (row : Row) : Prop :=
  ∃ c, condition field value = .ok c ∧ c.accepts row = true

theorem demands_iff_accepts {field value : String} {c : Filter}
    (built : condition field value = .ok c) (row : Row) :
    Demands field value row ↔ c.accepts row = true := by
  simp [Demands, built]

theorem accepts_restrict (f c : Filter) (row : Row) :
    (f.restrict c).accepts row = (c.accepts row && f.accepts row) := by
  cases f <;> simp [restrict, accepts]

theorem condition_of_plain (field : String) {value : String} (plain : hasWildcard value = false) :
    condition field value = .ok (.equals field value) := by
  simp [condition, plain]

theorem condition_of_wildcard {field value : String} {c : Filter}
    (wild : hasWildcard value = true) (built : condition field value = .ok c) :
    ∃ glob, Glob.compile value = .ok glob ∧ c = .matching field glob := by
  unfold condition at built
  rw [if_pos wild] at built
  cases compiled : Glob.compile value with
  | error fault => simp [compiled] at built
  | ok glob => exact ⟨glob, rfl, by simpa [compiled] using built.symm⟩

theorem demands_plain {field value : String} (plain : hasWildcard value = false) (row : Row) :
    Demands field value row ↔ row.get? field = some value := by
  simp [Demands, condition_of_plain field plain, accepts, Option.any_eq_true]

/-- A pattern accepts itself, so a value meets its own condition whether it has wildcards or not. -/
theorem demands_own {field value : String} {c : Filter} {row : Row}
    (built : condition field value = .ok c) (own : row.get? field = some value) :
    Demands field value row := by
  cases wild : hasWildcard value with
  | false => exact (demands_plain wild row).mpr own
  | true =>
    obtain ⟨glob, compiled, rfl⟩ := condition_of_wildcard wild built
    have source := (Glob.compile_eq_ok_iff.mp compiled).1
    refine ⟨.matching field glob, built, ?_⟩
    simp [accepts, own, ← source, glob.accepts_source]

theorem demands_congr {field : String} (value : String) {row other : Row}
    (same : row.get? field = other.get? field) :
    Demands field value row ↔ Demands field value other := by
  have agree : ∀ c, condition field value = .ok c → c.accepts row = c.accepts other := by
    intro c built
    cases wild : hasWildcard value with
    | false =>
      obtain rfl := Except.ok.inj ((condition_of_plain field wild).symm.trans built)
      simp [accepts, same]
    | true =>
      obtain ⟨glob, _, rfl⟩ := condition_of_wildcard wild built
      simp [accepts, same]
  constructor
  · intro demanded
    obtain ⟨c, built, meets⟩ := demanded
    exact ⟨c, built, (agree c built).symm.trans meets⟩
  · intro demanded
    obtain ⟨c, built, meets⟩ := demanded
    exact ⟨c, built, (agree c built).trans meets⟩

theorem restrictAll_exists_iff (f : Filter) (pairs : List (String × String)) :
    (∃ g, f.restrictAll pairs = .ok g) ↔ ∀ p ∈ pairs, ∃ c, condition p.1 p.2 = .ok c := by
  induction pairs generalizing f with
  | nil => simp [restrictAll]
  | cons pair rest ih =>
    cases built : condition pair.1 pair.2 with
    | error fault => simp [restrictAll, built]
    | ok c => simp [restrictAll, built, ih]

theorem accepts_restrictAll {f g : Filter} {pairs : List (String × String)}
    (built : f.restrictAll pairs = .ok g) (row : Row) :
    g.accepts row = true ↔ f.accepts row = true ∧ ∀ p ∈ pairs, Demands p.1 p.2 row := by
  induction pairs generalizing f with
  | nil =>
    obtain rfl := Except.ok.inj built
    simp
  | cons pair rest ih =>
    cases first : condition pair.1 pair.2 with
    | error fault => simp [restrictAll, first] at built
    | ok c =>
      simp only [restrictAll, first] at built
      rw [ih built, accepts_restrict, Bool.and_eq_true, List.forall_mem_cons,
        demands_iff_accepts first]
      constructor
      · intro all
        obtain ⟨⟨now, before⟩, later⟩ := all
        exact ⟨before, now, later⟩
      · intro all
        obtain ⟨before, now, later⟩ := all
        exact ⟨⟨now, before⟩, later⟩

theorem ofRow_exists_iff (bindings : Row) :
    (∃ f, ofRow bindings = .ok f) ↔
      ∀ name value, bindings.get? name = some value → ∃ c, condition name value = .ok c := by
  rw [ofRow, restrictAll_exists_iff]
  exact bindings.forall_entries_iff fun name value => ∃ c, condition name value = .ok c

theorem accepts_ofRow {bindings : Row} {f : Filter} (built : ofRow bindings = .ok f) (row : Row) :
    f.accepts row = true ↔
      ∀ name value, bindings.get? name = some value → Demands name value row := by
  rw [accepts_restrictAll built]
  simp only [accepts, true_and]
  exact bindings.forall_entries_iff fun name value => Demands name value row

theorem ofRow_of_within {small large : Row} (within : small.Within large) {f : Filter}
    (built : ofRow large = .ok f) :
    ∃ g, ofRow small = .ok g ∧ ∀ row, f.accepts row = true → g.accepts row = true := by
  have conditions := (ofRow_exists_iff large).mp ⟨f, built⟩
  obtain ⟨g, made⟩ := (ofRow_exists_iff small).mpr fun name value bound =>
    conditions name value (within name value bound)
  refine ⟨g, made, ?_⟩
  intro row accepted
  rw [accepts_ofRow built] at accepted
  rw [accepts_ofRow made]
  intro name value bound
  exact accepted name value (within name value bound)

theorem ofRow_insertAll_plain {bindings : Row} {f : Filter} (built : ofRow bindings = .ok f)
    {pairs : List (String × String)} (plain : ∀ p ∈ pairs, hasWildcard p.2 = false) :
    ∃ g, ofRow (bindings.insertAll pairs) = .ok g ∧ ∀ y, g.accepts y = true ↔
      (Table.ofList pairs).Within y ∧ ∀ name value, bindings.get? name = some value →
        (Table.ofList pairs).get? name = none → Demands name value y := by
  have plain_value : ∀ name value, (Table.ofList pairs).get? name = some value →
      hasWildcard value = false := by
    intro name value found
    exact plain (name, value) (Table.mem_of_get?_ofList found)
  have conditions : ∀ name value, (bindings.insertAll pairs).get? name = some value →
      ∃ c, condition name value = .ok c := by
    intro name value bound
    rw [Table.get?_insertAll_eq_or] at bound
    rcases Option.or_eq_some_iff.mp bound with new | ⟨_, old⟩
    · exact ⟨_, condition_of_plain name (plain_value name value new)⟩
    · exact (ofRow_exists_iff bindings).mp ⟨f, built⟩ name value old
  obtain ⟨g, made⟩ := (ofRow_exists_iff _).mpr conditions
  refine ⟨g, made, ?_⟩
  intro y
  rw [accepts_ofRow made]
  simp only [Table.get?_insertAll_eq_or, Option.or_eq_some_iff]
  constructor
  · intro demands
    constructor
    · intro name value new
      exact (demands_plain (plain_value name value new) y).mp (demands name value (Or.inl new))
    · intro name value old untouched
      exact demands name value (Or.inr ⟨untouched, old⟩)
  · intro both name value bound
    obtain ⟨values, others⟩ := both
    rcases bound with new | ⟨untouched, old⟩
    · exact (demands_plain (plain_value name value new) y).mpr (values name value new)
    · exact others name value old untouched

/-- Binding names to plain values that an accepted row has narrows the filter to the rows with these
values, also where a name was bound before: what was asked of it then holds of the new value. -/
theorem ofRow_insertAll {bindings : Row} {f : Filter} (built : ofRow bindings = .ok f)
    {names : List String} {value : String → String}
    (plain : ∀ name ∈ names, hasWildcard (value name) = false) {x : Row}
    (accepted : f.accepts x = true) (own : ∀ name ∈ names, x.get? name = some (value name)) :
    ∃ g, ofRow (bindings.insertAll (names.map fun n => (n, value n))) = .ok g ∧
      ∀ y, g.accepts y = true ↔
        f.accepts y = true ∧ ∀ name ∈ names, y.get? name = some (value name) := by
  have plain_pairs : ∀ p ∈ names.map fun n => (n, value n), hasWildcard p.2 = false :=
    List.forall_mem_map.mpr plain
  have given (name : String) : (Table.ofList (names.map fun n => (n, value n))).get? name =
      if name ∈ names then some (value name) else none :=
    (Table.get?_insertAll_map Table.empty names value name).trans (by rw [Table.get?_empty])
  obtain ⟨g, made, meaning⟩ := ofRow_insertAll_plain built plain_pairs
  refine ⟨g, made, ?_⟩
  intro y
  have demanded := (accepts_ofRow built x).mp accepted
  rw [meaning, accepts_ofRow built]
  constructor
  · intro narrow
    obtain ⟨within, others⟩ := narrow
    have values : ∀ name ∈ names, y.get? name = some (value name) := by
      intro name member
      exact within name _ (by rw [given, if_pos member])
    refine ⟨?_, values⟩
    intro name v bound
    by_cases member : name ∈ names
    · -- The new value is the accepted row's own, which met what was asked before.
      have same : x.get? name = y.get? name := (own name member).trans (values name member).symm
      exact (demands_congr v same).mp (demanded name v bound)
    · exact others name v bound (by rw [given, if_neg member])
  · intro both
    obtain ⟨before, values⟩ := both
    refine ⟨?_, fun name v bound _ => before name v bound⟩
    intro name v found
    obtain ⟨n, member, same⟩ := List.mem_map.mp (Table.mem_of_get?_ofList found)
    obtain ⟨rfl, rfl⟩ := Prod.mk.inj same
    exact values n member

end MediaPaths.Filter
