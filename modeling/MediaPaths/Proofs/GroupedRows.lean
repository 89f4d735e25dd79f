import Mathlib.Data.List.Induction
import MediaPaths.Proofs.Merge

/-!
The rows of a query against the plain reading of one: of the accepted entries those stay that have
no earlier one with their values of the group fields, and each shows what it has of the fields asked
for. The groups and the fields asked for matter only as sets.
-/
namespace MediaPaths

section Firsts

variable {α κ : Type} [DecidableEq κ]

def firsts (key : α → κ) (items : List α) : List α :=
  (items.zipIdx.filter fun p => key p.1 ∉ (items.take p.2).map key).map Prod.fst

theorem firsts_concat (key : α → κ) (items : List α) (a : α) :
    firsts key (items ++ [a]) =
      firsts key items ++ if key a ∈ items.map key then [] else [a] := by
  -- What stands before an item of the front stays the same when an item is added at the end.
  have front : ∀ p ∈ items.zipIdx, decide (key p.1 ∉ ((items ++ [a]).take p.2).map key) =
      decide (key p.1 ∉ (items.take p.2).map key) := by
    intro p member
    have inside := List.snd_lt_of_mem_zipIdx member
    rw [List.take_append_of_le_length (by omega)]
  rw [firsts, List.zipIdx_append, List.filter_append, List.map_append, List.filter_congr front]
  by_cases earlier : key a ∈ items.map key <;> simp [firsts, earlier]

theorem firsts_sublist (key : α → κ) (items : List α) : (firsts key items).Sublist items := by
  have within := (List.filter_sublist (p := fun p : α × Nat =>
    key p.1 ∉ (items.take p.2).map key) (l := items.zipIdx)).map Prod.fst
  rwa [List.zipIdx_map_fst] at within

/-- Keys that tell the same items apart keep the same items. -/
theorem firsts_congr {κ' : Type} [DecidableEq κ'] {key : α → κ} {key' : α → κ'}
    (same : ∀ a b, key a = key b ↔ key' a = key' b) (items : List α) :
    firsts key items = firsts key' items := by
  have kept : ∀ p ∈ items.zipIdx, decide (key p.1 ∉ (items.take p.2).map key) =
      decide (key' p.1 ∉ (items.take p.2).map key') := by
    intro p _
    simp only [List.mem_map, same]
  rw [firsts, firsts, List.filter_congr kept]

theorem mem_firsts_concat (key : α → κ) (items : List α) (a b : α) :
    b ∈ firsts key (items ++ [a]) ↔
      b ∈ firsts key items ∨ b = a ∧ key a ∉ items.map key := by
  rw [firsts_concat, List.mem_append]
  by_cases earlier : key a ∈ items.map key <;> simp only [earlier, if_true, if_false,
    List.not_mem_nil, List.mem_singleton, not_true, not_false_iff, and_true, and_false]

theorem mem_keys_firsts (key : α → κ) (items : List α) (k : κ) :
    k ∈ (firsts key items).map key ↔ k ∈ items.map key := by
  induction items using List.reverseRecOn with
  | nil => rfl
  | append_singleton items a ih =>
    rw [firsts_concat, List.map_append, List.map_append, List.mem_append, List.mem_append, ih]
    by_cases earlier : key a ∈ items.map key
    · have nothing_new : k = key a → k ∈ items.map key := fun same => same ▸ earlier
      simpa [earlier] using nothing_new
    · rw [if_neg earlier]

theorem find?_of_mem_firsts (key : α → κ) {items : List α} {a : α} (kept : a ∈ firsts key items) :
    items.find? (fun b => key b = key a) = some a := by
  induction items using List.reverseRecOn with
  | nil => cases kept
  | append_singleton items b ih =>
    rw [List.find?_append]
    rcases (mem_firsts_concat key items b a).mp kept with before | ⟨rfl, fresh⟩
    · rw [ih before, Option.some_or]
    · have absent : items.find? (fun b => key b = key a) = none := by
        rw [List.find?_eq_none]
        intro b member same
        exact fresh (List.mem_map.mpr ⟨b, member, of_decide_eq_true same⟩)
      rw [absent, Option.none_or]
      simp

variable [Ord κ] [Std.TransOrd κ] [Std.LawfulEqOrd κ]

theorem distinctBy_concat (key : α → κ) (items : List α) (a : α) :
    distinctBy key (items ++ [a]) =
      distinctBy key items ++ if key a ∈ items.map key then [] else [a] := by
  induction items with
  | nil => simp [distinctBy_cons, distinctBy_nil]
  | cons b rest ih =>
    rw [List.cons_append, distinctBy_cons, ih, distinctBy_cons, List.filter_append,
      List.cons_append]
    by_cases later : key a ∈ rest.map key
    · simp [later]
    · by_cases again : key a = key b <;> simp [again, later]

theorem distinctBy_eq_firsts (key : α → κ) (items : List α) :
    distinctBy key items = firsts key items := by
  induction items using List.reverseRecOn with
  | nil => rfl
  | append_singleton items a ih => rw [distinctBy_concat, firsts_concat, ih]

theorem nodup_keys_firsts (key : α → κ) (items : List α) :
    ((firsts key items).map key).Nodup := by
  rw [← distinctBy_eq_firsts]
  exact nodup_keys_distinctBy key items

end Firsts

theorem Table.project_congr {names names' : List String} (same : ∀ n, n ∈ names ↔ n ∈ names')
    (row : Row) : row.project names = row.project names' := by
  apply Table.ext_get?
  intro name
  simp only [get?_project, same]

theorem Table.project_eq_iff {names : List String} {row row' : Row} :
    row.project names = row'.project names ↔ ∀ n ∈ names, row.get? n = row'.get? n := by
  constructor
  · intro same n member
    have found := congrArg (fun r : Row => r.get? n) same
    simpa [get?_project, member] using found
  · intro agree
    apply Table.ext_get?
    intro name
    rw [get?_project, get?_project]
    split
    · exact agree name ‹_›
    · rfl

/-- The values of the group fields, a missing one differing from an empty one. -/
def Query.tuple (q : Query) (e : Entry) : List (Option String) := q.group.map e.fields.get?

theorem Query.tuple_eq_iff (q : Query) (e e' : Entry) :
    q.tuple e = q.tuple e' ↔ ∀ n ∈ q.group, e.fields.get? n = e'.fields.get? n :=
  List.map_inj_left

namespace Library

theorem rows_eq (lib : Library) (q : Query) :
    lib.rows q =
      (firsts q.tuple (lib.accepted q.filter)).map fun e => e.fields.project q.fetch := by
  rw [← distinctBy_eq_firsts]
  rfl

theorem rows_congr (lib : Library) {q q' : Query} (filter : q.filter = q'.filter)
    (fetch : ∀ n, n ∈ q.fetch ↔ n ∈ q'.fetch) (group : ∀ n, n ∈ q.group ↔ n ∈ q'.group) :
    lib.rows q = lib.rows q' := by
  have tuples : ∀ e e', q.tuple e = q.tuple e' ↔ q'.tuple e = q'.tuple e' := by
    intro e e'
    simp only [Query.tuple_eq_iff, group]
  rw [rows_eq, rows_eq, filter, firsts_congr tuples]
  exact List.map_congr_left fun e _ => Table.project_congr fetch e.fields

theorem rows_nodup (lib : Library) {q : Query} (shown : ∀ n ∈ q.group, n ∈ q.fetch) :
    (lib.rows q).Nodup := by
  have once := nodup_keys_firsts q.tuple (lib.accepted q.filter)
  rw [rows_eq, List.Nodup, List.pairwise_map]
  refine (List.pairwise_map.mp once).imp ?_
  intro e e' apart same
  rw [Table.project_eq_iff] at same
  exact apart ((q.tuple_eq_iff e e').mpr fun n member => same n (shown n member))

theorem mem_rows_iff (lib : Library) {q : Query} (grouped : ∀ n ∈ q.fetch, n ∈ q.group)
    (row : Row) : row ∈ lib.rows q ↔
      ∃ e ∈ lib.accepted q.filter, row = e.fields.project q.fetch := by
  rw [rows_eq, List.mem_map]
  constructor
  · rintro ⟨e, kept, rfl⟩
    exact ⟨e, (firsts_sublist _ _).subset kept, rfl⟩
  · rintro ⟨e, accepted, rfl⟩
    have key := (mem_keys_firsts q.tuple (lib.accepted q.filter) (q.tuple e)).mpr
      (List.mem_map.mpr ⟨e, accepted, rfl⟩)
    obtain ⟨first, kept, same⟩ := List.mem_map.mp key
    rw [Query.tuple_eq_iff] at same
    exact ⟨first, kept, Table.project_eq_iff.mpr fun n member => same n (grouped n member)⟩

end Library

theorem one_row_per_group (lib : Library) (q : Query) :
    let accepted := lib.entries.filter fun e => q.filter.accepts e.fields
    let kept := firsts q.tuple accepted
    lib.rows q = kept.map (fun e => e.fields.project q.fetch) ∧
    (∀ (e : Entry) (name : String), (e.fields.project q.fetch).get? name =
      if name ∈ q.fetch then e.fields.get? name else none) ∧
    kept.Sublist accepted ∧
    (kept.map q.tuple).Nodup ∧
    (∀ k, k ∈ kept.map q.tuple ↔ k ∈ accepted.map q.tuple) ∧
    (∀ e ∈ kept, accepted.find? (fun e' => q.tuple e' = q.tuple e) = some e) ∧
    (∀ fetch group : List String, (∀ n, n ∈ fetch ↔ n ∈ q.fetch) → (∀ n, n ∈ group ↔ n ∈ q.group) →
      lib.rows ⟨q.filter, fetch, group⟩ = lib.rows q) ∧
    ((∀ n ∈ q.group, n ∈ q.fetch) → (lib.rows q).Nodup) ∧
    ((∀ n ∈ q.fetch, n ∈ q.group) →
      ∀ row, row ∈ lib.rows q ↔ ∃ e ∈ accepted, row = e.fields.project q.fetch) := by
  intro accepted kept
  refine ⟨lib.rows_eq q, fun e => Table.get?_project e.fields q.fetch, firsts_sublist _ _,
    nodup_keys_firsts _ _, mem_keys_firsts _ _, fun _ => find?_of_mem_firsts _, ?_, lib.rows_nodup,
    lib.mem_rows_iff⟩
  intro fetch group same_fetch same_group
  exact lib.rows_congr rfl same_fetch same_group

namespace Sample

def albums : Library :=
  ⟨[⟨4, Table.ofList [("artist", "Air"), ("album", "")]⟩,
    ⟨2, Table.ofList [("artist", "Air"), ("n", "01")]⟩,
    ⟨2, Table.ofList [("artist", "Moby"), ("album", "Play"), ("n", "01")]⟩,
    ⟨7, Table.ofList [("artist", "Air"), ("album", ""), ("n", "02")]⟩,
    ⟨8, Table.ofList [("artist", "Air"), ("n", "03")]⟩]⟩

def byAlbum : Query := ⟨.everything, ["album", "artist"], ["artist", "artist", "album"]⟩

end Sample

theorem one_row_per_group_albums :
    (∀ n ∈ Sample.byAlbum.group, n ∈ Sample.byAlbum.fetch) ∧
      (∀ n ∈ Sample.byAlbum.fetch, n ∈ Sample.byAlbum.group) ∧
      Sample.albums.rows Sample.byAlbum = [Table.ofList [("artist", "Air"), ("album", "")],
        Table.ofList [("artist", "Air")], Table.ofList [("artist", "Moby"), ("album", "Play")]] ∧
      (Sample.albums.rows Sample.byAlbum).Nodup ∧
      Sample.albums.rows ⟨.everything, ["artist", "album"], ["album", "artist"]⟩ =
        Sample.albums.rows Sample.byAlbum ∧
      Table.ofList [("artist", "Air")] ∈ Sample.albums.rows Sample.byAlbum := by
  have shown : ∀ n ∈ Sample.byAlbum.group, n ∈ Sample.byAlbum.fetch := by decide
  have grouped : ∀ n ∈ Sample.byAlbum.fetch, n ∈ Sample.byAlbum.group := by decide
  obtain ⟨rows, _, _, _, _, _, sets, once, all⟩ := one_row_per_group Sample.albums Sample.byAlbum
  refine ⟨shown, grouped, ?_, once shown, ?_, ?_⟩
  · rw [rows]
    decide
  · exact sets ["artist", "album"] ["album", "artist"] (by simp [Sample.byAlbum, or_comm])
      (by simp [Sample.byAlbum, or_comm])
  · rw [all grouped]
    decide

end MediaPaths
