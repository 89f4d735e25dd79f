import MediaPaths.Library

/-!
What a table holds after many insertions. The last pair of a name decides, so a lookup goes through
the pairs backwards and falls back on what was there before.
-/
namespace MediaPaths.Table

variable {α : Type}

def Within (small large : Table α) : Prop :=
  ∀ name value, small.get? name = some value → large.get? name = some value

theorem insertAll_append (t : Table α) (first second : List (String × α)) :
    t.insertAll (first ++ second) = (t.insertAll first).insertAll second := by
  induction first generalizing t with
  | nil => rfl
  | cons pair rest ih => exact ih (t.insert pair.1 pair.2)

theorem get?_insertAll (t : Table α) (pairs : List (String × α)) (name : String) :
    (t.insertAll pairs).get? name = (pairs.reverse.lookup name).or (t.get? name) := by
  induction pairs generalizing t with
  | nil => rfl
  | cons pair rest ih =>
    obtain ⟨key, value⟩ := pair
    have later := ih (t.insert key value)
    rw [get?_insert] at later
    rw [insertAll, later, List.reverse_cons, List.lookup_append, Option.or_assoc]
    by_cases same : name = key
    · simp [same]
    · have differs : (name == key) = false := beq_eq_false_iff_ne.mpr same
      simp [List.lookup_cons, same, differs]

theorem get?_ofList (pairs : List (String × α)) (name : String) :
    (ofList pairs).get? name = pairs.reverse.lookup name := by
  rw [ofList, get?_insertAll, get?_empty, Option.or_none]

theorem mem_of_get?_ofList {pairs : List (String × α)} {name : String} {value : α}
    (found : (ofList pairs).get? name = some value) : (name, value) ∈ pairs := by
  rw [get?_ofList, List.lookup_eq_some_iff] at found
  obtain ⟨before, after, split, _⟩ := found
  have member : (name, value) ∈ pairs.reverse := by rw [split]; simp
  exact List.mem_reverse.mp member

theorem get?_insertAll_of_absent (t : Table α) {pairs : List (String × α)} {name : String}
    (absent : ∀ p ∈ pairs, p.1 ≠ name) : (t.insertAll pairs).get? name = t.get? name := by
  induction pairs generalizing t with
  | nil => rfl
  | cons pair rest ih =>
    have other : name ≠ pair.1 := (absent pair (by simp)).symm
    rw [insertAll, ih _ fun p member => absent p (by simp [member]), get?_insert, if_neg other]

theorem get?_insertAll_of_mem (t : Table α) {pairs : List (String × α)}
    (once : (pairs.map Prod.fst).Nodup) {name : String} {value : α}
    (member : (name, value) ∈ pairs) : (t.insertAll pairs).get? name = some value := by
  induction pairs generalizing t with
  | nil => simp at member
  | cons pair rest ih =>
    obtain ⟨fresh, later⟩ := List.nodup_cons.mp once
    rcases List.mem_cons.mp member with rfl | inside
    · have absent : ∀ p ∈ rest, p.1 ≠ name := by
        intro p inside same
        exact fresh (List.mem_map.mpr ⟨p, inside, same⟩)
      rw [insertAll, get?_insertAll_of_absent _ absent, get?_insert, if_pos rfl]
    · exact ih _ later inside

theorem get?_insertAll_eq_or (t : Table α) (pairs : List (String × α)) (name : String) :
    (t.insertAll pairs).get? name = ((ofList pairs).get? name).or (t.get? name) := by
  rw [get?_insertAll, get?_ofList]

theorem within_ofList_append {front back : List (String × α)}
    (apart : ∀ p ∈ front, ∀ q ∈ back, q.1 ≠ p.1) :
    (ofList front).Within (ofList (front ++ back)) := by
  intro name value found
  have member := mem_of_get?_ofList found
  rw [ofList, insertAll_append, get?_insertAll_of_absent _ (apart _ member)]
  exact found

section Between

variable {front own back : List (String × α)}

theorem get?_between_of_mem (once : (own.map Prod.fst).Nodup) {p : String × α}
    (behind : ∀ q ∈ back, q.1 ≠ p.1) (member : p ∈ own) :
    (ofList (front ++ own ++ back)).get? p.1 = some p.2 := by
  rw [ofList, insertAll_append, get?_insertAll_of_absent _ behind, insertAll_append,
    get?_insertAll_of_mem _ once member]

theorem get?_between_of_absent {name : String} (absent : ∀ p ∈ own, p.1 ≠ name) :
    (ofList (front ++ own ++ back)).get? name = (ofList (front ++ back)).get? name := by
  rw [ofList, ofList, insertAll_append, insertAll_append, insertAll_append, get?_insertAll_eq_or,
    get?_insertAll_of_absent _ absent, ← get?_insertAll_eq_or]

end Between

/-- Pairs that agree on the value of each name may repeat the name. -/
theorem get?_insertAll_map (t : Table α) (names : List String) (value : String → α)
    (name : String) : (t.insertAll (names.map fun n => (n, value n))).get? name =
      if name ∈ names then some (value name) else t.get? name := by
  induction names generalizing t with
  | nil => simp [insertAll]
  | cons first rest ih =>
    rw [List.map_cons, insertAll, ih, get?_insert]
    by_cases later : name ∈ rest
    · simp [later]
    · by_cases same : name = first <;> simp [later, same]

theorem find?_eq_some_iff_mem {entries : List (String × α)} {name : String} {value : α}
    (sorted : entries.Pairwise (fun a b => a.1 < b.1)) :
    find? name entries = some value ↔ (name, value) ∈ entries := by
  induction entries with
  | nil => simp [find?]
  | cons e rest ih =>
    obtain ⟨above, tail⟩ := List.pairwise_cons.mp sorted
    by_cases same : name = e.1
    · have absent : (name, value) ∉ rest := by
        intro member
        exact String.lt_irrefl _ (same ▸ above _ member)
      simp only [find?, same, ↓reduceIte, Option.some.injEq, List.mem_cons]
      constructor
      · intro found
        exact Or.inl (Prod.ext rfl found.symm)
      · intro member
        rcases member with here | there
        · exact congrArg Prod.snd here.symm
        · exact absurd (same ▸ there) absent
    · have other : (name, value) ≠ e := fun eq => same (congrArg Prod.fst eq)
      simp [find?, same, ih tail, other]

theorem mem_entries_iff (t : Table α) (name : String) (value : α) :
    (name, value) ∈ t.entries ↔ t.get? name = some value :=
  (find?_eq_some_iff_mem t.sorted).symm

theorem forall_entries_iff (t : Table α) (holds : String → α → Prop) :
    (∀ p ∈ t.entries, holds p.1 p.2) ↔
      ∀ name value, t.get? name = some value → holds name value := by
  constructor
  · intro all name value found
    exact all (name, value) ((t.mem_entries_iff name value).mpr found)
  · intro all p member
    exact all p.1 p.2 ((t.mem_entries_iff p.1 p.2).mp member)

theorem mem_keys_iff (t : Table α) (name : String) :
    name ∈ t.keys ↔ ∃ value, t.get? name = some value := by
  simp only [keys, List.mem_map]
  constructor
  · rintro ⟨⟨key, value⟩, member, rfl⟩
    exact ⟨value, (t.mem_entries_iff key value).mp member⟩
  · rintro ⟨value, found⟩
    exact ⟨(name, value), (t.mem_entries_iff name value).mpr found, rfl⟩

theorem keys_increasing (t : Table α) : t.keys.Pairwise (· < ·) :=
  List.pairwise_map.mpr t.sorted

theorem get?_insertAll_present (t row : Row) (names : List String) (name : String) :
    (t.insertAll (names.filterMap fun n => (row.get? n).map (n, ·))).get? name =
      if name ∈ names then (row.get? name).or (t.get? name) else t.get? name := by
  induction names generalizing t with
  | nil => simp [insertAll]
  | cons first rest ih =>
    cases present : row.get? first with
    | none =>
      rw [List.filterMap_cons, present, Option.map_none, ih]
      by_cases same : name = first <;> simp [same, present]
    | some value =>
      rw [List.filterMap_cons, present, Option.map_some, insertAll, ih, get?_insert]
      by_cases same : name = first <;> simp [same, present]

theorem get?_project (row : Row) (names : List String) (name : String) :
    (row.project names).get? name = if name ∈ names then row.get? name else none := by
  rw [project, ofList, get?_insertAll_present, get?_empty, Option.or_none]

end MediaPaths.Table
