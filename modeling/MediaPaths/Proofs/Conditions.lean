import MediaPaths.Proofs.Conjunction

/-!
The conditions of a filter. Whatever its shape, a filter accepts what each of its conditions accepts
(`Filter.accepts_iff_conditions`). The filter of a row of bindings is a chain of one condition a
binding, the greatest name outermost, and there is none when a value is too heavy for a pattern: the
fault is then that of the least name with such a value.
-/
namespace MediaPaths

theorem Table.entries_eq_nil_iff {α : Type} (t : Table α) : t.entries = [] ↔ t = Table.empty := by
  cases t
  simp [Table.empty]

namespace Filter

def TooHeavy (value : String) : Prop := hasWildcard value = true ∧ ¬ (patternWeight value).Fits

inductive IsLeaf : Filter → Prop where
  | equals (field value : String) : IsLeaf (.equals field value)
  | matching (field : String) (glob : Glob) : IsLeaf (.matching field glob)

def holdsEverything : Filter → Bool
  | .everything => true
  | .and l r => l.holdsEverything || r.holdsEverything
  | _ => false

def chain : List Filter → Filter
  | [] => .everything
  | [c] => c
  | c :: d :: rest => .and c (chain (d :: rest))

theorem accepts_iff_conditions (f : Filter) (row : Row) :
    f.accepts row = true ↔ ∀ c ∈ f.conditions, c.accepts row = true := by
  induction f with
  | everything => simp [accepts, conditions]
  | equals field value => simp [conditions]
  | matching field glob => simp [conditions]
  | and l r left right =>
    simp only [accepts, conditions, Bool.and_eq_true, left, right, List.mem_append, or_imp,
      forall_and]

theorem conditions_of_leaf {c : Filter} (leaf : c.IsLeaf) : c.conditions = [c] := by
  cases leaf <;> rfl

theorem restrict_chain {cs : List Filter} (leaves : ∀ c ∈ cs, c.IsLeaf) (c : Filter) :
    (chain cs).restrict c = chain (c :: cs) := by
  cases cs with
  | nil => rfl
  | cons d rest =>
    cases rest with
    | nil =>
      have leaf := leaves d (by simp)
      cases leaf <;> rfl
    | cons e rest => rfl

theorem conditions_chain {cs : List Filter} (leaves : ∀ c ∈ cs, c.IsLeaf) :
    (chain cs).conditions = cs := by
  induction cs with
  | nil => rfl
  | cons c rest ih =>
    obtain ⟨leaf, others⟩ := List.forall_mem_cons.mp leaves
    cases rest with
    | nil => exact conditions_of_leaf leaf
    | cons d rest =>
      rw [chain, conditions, conditions_of_leaf leaf, ih others, List.singleton_append]

theorem holdsEverything_chain {cs : List Filter} (leaves : ∀ c ∈ cs, c.IsLeaf) :
    (chain cs).holdsEverything = cs.isEmpty := by
  induction cs with
  | nil => rfl
  | cons c rest ih =>
    obtain ⟨leaf, others⟩ := List.forall_mem_cons.mp leaves
    have bare : c.holdsEverything = false := by cases leaf <;> rfl
    cases rest with
    | nil => exact bare
    | cons d rest => rw [chain, holdsEverything, bare, ih others]; rfl

theorem text_chain (c : Filter) (rest : List Filter) :
    (chain (c :: rest)).text = String.intercalate " AND " ((c :: rest).map text) := by
  induction rest generalizing c with
  | nil => simp [chain]
  | cons d rest ih =>
    have more : (d :: rest).map text ≠ [] := by simp
    rw [chain, text, ih d, List.map_cons (a := c), String.intercalate_cons_of_ne_nil more]

theorem leaf_of_condition {field value : String} {c : Filter}
    (built : condition field value = .ok c) : c.IsLeaf := by
  cases wild : hasWildcard value with
  | false =>
    obtain rfl := Except.ok.inj ((condition_of_plain field wild).symm.trans built)
    exact IsLeaf.equals field value
  | true =>
    obtain ⟨glob, _, rfl⟩ := condition_of_wildcard wild built
    exact IsLeaf.matching field glob

theorem condition_eq_error_iff {field value : String} {fault : Fault} :
    condition field value = .error fault ↔ TooHeavy value ∧ fault = .patternTooLarge value := by
  unfold condition TooHeavy Glob.compile
  grind

theorem condition_exists_iff {field value : String} :
    (∃ c, condition field value = .ok c) ↔ ¬ TooHeavy value := by
  cases built : condition field value with
  | ok c =>
    have light : ¬ TooHeavy value := by
      intro heavy
      have failed : condition field value = .error _ := condition_eq_error_iff.mpr ⟨heavy, rfl⟩
      rw [built] at failed
      cases failed
    simp [light]
  | error fault => simp [(condition_eq_error_iff.mp built).1]

/-- What was chained before stays innermost, and each binding adds one condition in front. -/
theorem chain_of_restrictAll {held : List Filter} {pairs : List (String × String)} {f : Filter}
    (leaves : ∀ c ∈ held, c.IsLeaf) (built : (chain held).restrictAll pairs = .ok f) :
    ∃ cs, f = chain (cs ++ held) ∧ (∀ c ∈ cs ++ held, c.IsLeaf) ∧
      cs.map Except.ok = pairs.reverse.map fun p => condition p.1 p.2 := by
  induction pairs generalizing held with
  | nil =>
    obtain rfl := Except.ok.inj built
    exact ⟨[], rfl, leaves, rfl⟩
  | cons pair rest ih =>
    cases first : condition pair.1 pair.2 with
    | error fault => simp [restrictAll, first] at built
    | ok c =>
      simp only [restrictAll, first, restrict_chain leaves c] at built
      have more : ∀ d ∈ c :: held, d.IsLeaf :=
        List.forall_mem_cons.mpr ⟨leaf_of_condition first, leaves⟩
      obtain ⟨cs, rfl, leaves', each⟩ := ih more built
      have shape : cs ++ c :: held = (cs ++ [c]) ++ held := by simp
      refine ⟨cs ++ [c], by rw [shape], shape ▸ leaves', ?_⟩
      simp [each, first]

theorem chain_of_ofRow {bindings : Row} {f : Filter} (built : ofRow bindings = .ok f) :
    ∃ cs, f = chain cs ∧ (∀ c ∈ cs, c.IsLeaf) ∧
      cs.map Except.ok = bindings.entries.reverse.map fun p => condition p.1 p.2 := by
  have nothing : ∀ c ∈ ([] : List Filter), c.IsLeaf := by simp
  obtain ⟨cs, shape, leaves, each⟩ := chain_of_restrictAll nothing built
  rw [List.append_nil] at shape leaves
  exact ⟨cs, shape, leaves, each⟩

/-- The names come in increasing order, so the first fault is that of the least name. -/
theorem restrictAll_eq_error_iff (f : Filter) {pairs : List (String × String)}
    (sorted : pairs.Pairwise (fun a b => a.1 < b.1)) (fault : Fault) :
    f.restrictAll pairs = .error fault ↔
      ∃ p ∈ pairs, TooHeavy p.2 ∧ fault = .patternTooLarge p.2 ∧
        ∀ q ∈ pairs, q.1 < p.1 → ¬ TooHeavy q.2 := by
  induction pairs generalizing f with
  | nil => simp [restrictAll]
  | cons pair rest ih =>
    obtain ⟨least, sorted'⟩ := List.pairwise_cons.mp sorted
    cases first : condition pair.1 pair.2 with
    | error fault' =>
      obtain ⟨heavy, rfl⟩ := condition_eq_error_iff.mp first
      simp only [restrictAll, first, Except.error.injEq]
      constructor
      · rintro rfl
        refine ⟨pair, by simp, heavy, rfl, ?_⟩
        intro q member less
        rcases List.mem_cons.mp member with rfl | later
        · exact absurd less (String.lt_irrefl _)
        · exact absurd (String.lt_trans less (least q later)) (String.lt_irrefl _)
      · rintro ⟨p, member, _, rfl, light⟩
        rcases List.mem_cons.mp member with rfl | later
        · rfl
        · exact absurd heavy (light pair (by simp) (least p later))
    | ok c =>
      have light := condition_exists_iff.mp ⟨c, first⟩
      simp only [restrictAll, first, ih (f.restrict c) sorted', List.exists_mem_cons_iff,
        List.forall_mem_cons, light, false_and, false_or, not_false_eq_true, implies_true, true_and]

theorem ofRow_eq_error_iff (bindings : Row) (fault : Fault) :
    ofRow bindings = .error fault ↔
      ∃ name value, bindings.get? name = some value ∧ TooHeavy value ∧
        fault = .patternTooLarge value ∧
        ∀ less v, less < name → bindings.get? less = some v → ¬ TooHeavy v := by
  rw [ofRow, restrictAll_eq_error_iff _ bindings.sorted]
  simp only [Prod.exists, Prod.forall, bindings.mem_entries_iff]
  grind

theorem ofRow_fails_iff (bindings : Row) :
    (∃ fault, ofRow bindings = .error fault) ↔
      ∃ name value, bindings.get? name = some value ∧ TooHeavy value := by
  have exists_iff := ofRow_exists_iff bindings
  simp only [condition_exists_iff] at exists_iff
  cases built : ofRow bindings with
  | ok f =>
    have light := exists_iff.mp ⟨f, built⟩
    simpa using light
  | error fault =>
    have heavy := mt exists_iff.mpr (by simp [built])
    simpa using heavy

end Filter

theorem filter_is_conjunction (bindings : Row) :
    ((∃ fault, Filter.ofRow bindings = .error fault) ↔
      ∃ name value, bindings.get? name = some value ∧ Filter.TooHeavy value) ∧
    (∀ fault, Filter.ofRow bindings = .error fault ↔
      ∃ name value, bindings.get? name = some value ∧ Filter.TooHeavy value ∧
        fault = .patternTooLarge value ∧
        ∀ less v, less < name → bindings.get? less = some v → ¬ Filter.TooHeavy v) ∧
    (∀ f, Filter.ofRow bindings = .ok f →
      (∀ row, f.accepts row = true ↔ ∀ name value, bindings.get? name = some value →
        ∃ c, Filter.condition name value = .ok c ∧ c.accepts row = true) ∧
      f.conditions.map Except.ok =
        bindings.entries.reverse.map (fun p => Filter.condition p.1 p.2) ∧
      (bindings.entries.reverse.map Prod.fst).Pairwise (fun a b => b < a) ∧
      (f.holdsEverything = true ↔ bindings = Table.empty) ∧
      f.text = if bindings = Table.empty then "*"
        else String.intercalate " AND " (f.conditions.map Filter.text)) ∧
    ∀ (f : Filter) (row : Row),
      f.accepts row = true ↔ ∀ c ∈ f.conditions, c.accepts row = true := by
  refine ⟨Filter.ofRow_fails_iff bindings, Filter.ofRow_eq_error_iff bindings, ?_,
    Filter.accepts_iff_conditions⟩
  intro f built
  obtain ⟨cs, rfl, leaves, each⟩ := Filter.chain_of_ofRow built
  have number : cs.length = bindings.entries.length := by simpa using congrArg List.length each
  have none_iff : cs = [] ↔ bindings = Table.empty := by
    rw [← Table.entries_eq_nil_iff, ← List.length_eq_zero_iff, ← List.length_eq_zero_iff, number]
  refine ⟨Filter.accepts_ofRow built, ?_, ?_, ?_, ?_⟩
  · rw [Filter.conditions_chain leaves]
    exact each
  · rw [List.map_reverse, List.pairwise_reverse, List.pairwise_map]
    exact bindings.sorted
  · rw [Filter.holdsEverything_chain leaves, List.isEmpty_iff]
    exact none_iff
  · simp only [← none_iff, Filter.conditions_chain leaves]
    cases cs with
    | nil => rfl
    | cons c rest =>
      rw [if_neg (List.cons_ne_nil c rest)]
      exact Filter.text_chain c rest

namespace Sample

def anyA : Glob := ⟨"?a*", "?a*".toList.splitOn '*', rfl, by decide⟩

def moonlit : Row := Table.ofList [("title", "?a*"), ("artist", "Air"), ("album", "Moon Safari")]

def stars (n : Nat) : String := String.ofList (List.replicate n '*')

theorem patternWeight_stars (n : Nat) :
    patternWeight (stars n) = ⟨192 + 456 * n, 128 + 1004 * n⟩ := by
  have from_weight (w : Weight) : (List.replicate n '*').foldl (fun w c => w + charWeight c) w =
      ⟨w.forwards + 456 * n, w.backwards + 1004 * n⟩ := by
    induction n generalizing w with
    | zero => rfl
    | succ n ih =>
      have star : w + charWeight '*' = ⟨w.forwards + 456, w.backwards + 1004⟩ := rfl
      rw [List.replicate_succ, List.foldl_cons, ih, star, Weight.mk.injEq]
      dsimp only
      omega
  rw [patternWeight, stars, String.toList_ofList, from_weight]
  rfl

theorem tooHeavy_stars {n : Nat} (many : 10444 ≤ n) : Filter.TooHeavy (stars n) := by
  constructor
  · rw [hasWildcard_iff, stars, String.toList_ofList, List.mem_replicate]
    exact Or.inl ⟨by omega, rfl⟩
  · rw [patternWeight_stars, Weight.Fits, Weight.limit]
    dsimp only
    omega

def starry : Row := Table.ofList [("title", stars 10445), ("album", stars 10444)]

end Sample

theorem filter_is_conjunction_moonlit :
    let f : Filter := .and (.matching "title" Sample.anyA)
      (.and (.equals "artist" "Air") (.equals "album" "Moon Safari"))
    Filter.ofRow Sample.moonlit = .ok f ∧
      f.accepts (Table.ofList [("title", "Talisman"), ("artist", "Air"),
        ("album", "Moon Safari")]) = true ∧
      f.holdsEverything = false ∧
      f.text = "title LIKE \"_a%\" AND artist = \"Air\" AND album = \"Moon Safari\"" ∧
      Filter.ofRow Sample.starry = .error (.patternTooLarge (Sample.stars 10444)) := by
  intro f
  have built : Filter.ofRow Sample.moonlit = .ok f := by rfl
  obtain ⟨_, _, made, meaning⟩ := filter_is_conjunction Sample.moonlit
  obtain ⟨_, _, _, whole, text⟩ := made f built
  obtain ⟨_, failed, _, _⟩ := filter_is_conjunction Sample.starry
  refine ⟨built, ?_, ?_, ?_, ?_⟩
  · rw [meaning]
    decide
  · rw [Bool.eq_false_iff, ne_eq, whole]
    decide
  · rw [text]
    decide
  · rw [failed]
    refine ⟨"album", Sample.stars 10444, by simp [Sample.starry, Table.ofList, Table.insertAll],
      Sample.tooHeavy_stars (by omega), rfl, ?_⟩
    intro less v below bound
    have named : less = "album" ∨ less = "title" := by
      simp only [Sample.starry, Table.ofList, Table.insertAll, Table.get?_insert] at bound
      by_contra other
      rw [not_or] at other
      simp [other] at bound
    rcases named with rfl | rfl
    · exact absurd below (String.lt_irrefl _)
    · exact absurd below (by decide)

end MediaPaths
