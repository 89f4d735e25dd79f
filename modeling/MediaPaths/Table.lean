/-!
Finite maps from names to values, listed in the order of the names by code point. The order is part
of the type, so two tables are equal exactly when every name has the same value in both
(`Table.ext_get?`). A `Row` holds the field values of one library entry, or the values that a path
has bound.
-/
namespace MediaPaths

structure Table (α : Type) where
  entries : List (String × α)
  sorted : entries.Pairwise (fun a b => a.1 < b.1)
  deriving DecidableEq

abbrev Row := Table String

namespace Table

variable {α : Type}

def empty : Table α := ⟨[], List.Pairwise.nil⟩

def isEmpty (t : Table α) : Bool := t.entries.isEmpty
def size (t : Table α) : Nat := t.entries.length
def keys (t : Table α) : List String := t.entries.map (·.1)

def find? (name : String) : List (String × α) → Option α
  | [] => none
  | e :: rest => if name = e.1 then some e.2 else find? name rest

def get? (t : Table α) (name : String) : Option α := find? name t.entries
def contains (t : Table α) (name : String) : Bool := (t.get? name).isSome

def place (name : String) (value : α) : List (String × α) → List (String × α)
  | [] => [(name, value)]
  | e :: rest =>
    if name < e.1 then (name, value) :: e :: rest
    else if name = e.1 then (name, value) :: rest
    else e :: place name value rest

theorem lt_of_not_lt_of_ne {a b : String} (h : ¬ a < b) (ne : a ≠ b) : b < a := by
  refine Decidable.byContradiction fun h' => ne ?_
  exact String.le_antisymm (String.not_lt.1 h') (String.not_lt.1 h)

theorem mem_place {name : String} {value : α} {entries : List (String × α)} {e : String × α}
    (h : e ∈ place name value entries) : e = (name, value) ∨ e ∈ entries := by
  induction entries with
  | nil => simpa [place] using h
  | cons d rest ih =>
    simp only [place] at h
    split at h
    · simpa using h
    · split at h
      · exact (List.mem_cons.1 h).imp_right (List.mem_cons_of_mem d)
      · rcases List.mem_cons.1 h with h | h
        · exact .inr (by simp [h])
        · exact (ih h).imp_right (List.mem_cons_of_mem d)

theorem sorted_place (name : String) (value : α) {entries : List (String × α)}
    (h : entries.Pairwise (fun a b => a.1 < b.1)) :
    (place name value entries).Pairwise (fun a b => a.1 < b.1) := by
  induction entries with
  | nil => simp [place]
  | cons d rest ih =>
    have hd := List.pairwise_cons.1 h
    simp only [place]
    split
    · rename_i lt
      refine List.pairwise_cons.2 ⟨fun e he => ?_, h⟩
      rcases List.mem_cons.1 he with rfl | he
      · exact lt
      · exact String.lt_trans lt (hd.1 e he)
    · rename_i nlt
      split
      · rename_i eq
        exact List.pairwise_cons.2 ⟨fun e he => by simpa [eq] using hd.1 e he, hd.2⟩
      · rename_i ne
        refine List.pairwise_cons.2 ⟨fun e he => ?_, ih hd.2⟩
        rcases mem_place he with rfl | he
        · exact lt_of_not_lt_of_ne nlt ne
        · exact hd.1 e he

def insert (t : Table α) (name : String) (value : α) : Table α :=
  ⟨place name value t.entries, sorted_place name value t.sorted⟩

/-- Inserts the pairs from left to right, so the last pair of a name decides. -/
def insertAll (t : Table α) : List (String × α) → Table α
  | [] => t
  | (name, value) :: rest => (t.insert name value).insertAll rest

def ofList (pairs : List (String × α)) : Table α := empty.insertAll pairs

@[simp] theorem get?_empty (name : String) : (empty : Table α).get? name = none := rfl

theorem find?_place (name key : String) (value : α) (entries : List (String × α)) :
    find? key (place name value entries) =
      if key = name then some value else find? key entries := by
  induction entries with
  | nil => simp [place, find?]
  | cons d rest ih => grind [place, find?]

@[simp] theorem get?_insert (t : Table α) (name key : String) (value : α) :
    (t.insert name value).get? key = if key = name then some value else t.get? key :=
  find?_place name key value t.entries

theorem length_place {name : String} (value : α) {entries : List (String × α)}
    (absent : find? name entries = none) :
    (place name value entries).length = entries.length + 1 := by
  induction entries with
  | nil => rfl
  | cons d rest ih => grind [place, find?]

theorem size_insert {t : Table α} {name : String} (absent : t.get? name = none) (value : α) :
    (t.insert name value).size = t.size + 1 :=
  length_place value absent

theorem find?_eq_none_of_lt {name : String} {entries : List (String × α)}
    (h : ∀ e ∈ entries, name < e.1) : find? name entries = none := by
  induction entries with
  | nil => rfl
  | cons d rest ih =>
    have lt := h d (by simp)
    have ne : name ≠ d.1 := fun e => String.lt_irrefl _ (e ▸ lt)
    simp [find?, ne, ih fun e he => h e (by simp [he])]

theorem not_head_lt_of_find?_eq {d e : String × α} {a b : List (String × α)}
    (hb : (e :: b).Pairwise (fun x y => x.1 < y.1))
    (h : ∀ name, find? name (d :: a) = find? name (e :: b)) : ¬ d.1 < e.1 := by
  intro lt
  have absent : find? d.1 (e :: b) = none := by
    refine find?_eq_none_of_lt fun x hx => ?_
    rcases List.mem_cons.1 hx with rfl | hx
    · exact lt
    · exact String.lt_trans lt ((List.pairwise_cons.1 hb).1 x hx)
  have found := h d.1
  rw [absent] at found
  simp [find?] at found

theorem entries_eq_of_find?_eq {a b : List (String × α)}
    (ha : a.Pairwise (fun x y => x.1 < y.1)) (hb : b.Pairwise (fun x y => x.1 < y.1))
    (h : ∀ name, find? name a = find? name b) : a = b := by
  induction a generalizing b with
  | nil =>
    cases b with
    | nil => rfl
    | cons e b => simpa [find?] using h e.1
  | cons d a ih =>
    cases b with
    | nil => simpa [find?] using h d.1
    | cons e b =>
      have key : d.1 = e.1 := Decidable.byContradiction fun ne =>
        not_head_lt_of_find?_eq ha (fun name => (h name).symm)
          (lt_of_not_lt_of_ne (not_head_lt_of_find?_eq hb h) ne)
      have hd := List.pairwise_cons.1 ha
      have he := List.pairwise_cons.1 hb
      have value : d.2 = e.2 := by simpa [find?, key] using h d.1
      have tail : a = b := by
        refine ih hd.2 he.2 fun name => ?_
        by_cases hn : name = d.1
        · rw [hn, find?_eq_none_of_lt hd.1, key, find?_eq_none_of_lt he.1]
        · have hn' : name ≠ e.1 := key ▸ hn
          simpa [find?, hn, hn'] using h name
      rw [tail, Prod.ext key value]

theorem ext_get? {s t : Table α} (h : ∀ name, s.get? name = t.get? name) : s = t := by
  cases s; cases t
  simp only [mk.injEq]
  exact entries_eq_of_find?_eq ‹_› ‹_› h

end Table

end MediaPaths
