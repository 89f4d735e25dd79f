import MediaPaths.Proofs.DrillDown

/-!
Each element of a path narrows the selection on its own. Where the names of a level stand in no other
level, its element adds the conditions of its own bindings to those of the other elements and changes
none of them, wherever the conditions come to stand in the filter and however the path goes on.
-/
namespace MediaPaths

namespace Filter

/-- Whether a value is what a text asks for: the text itself or, where it has wildcards, anything
they stand for. -/
def wants (wanted value : String) : Bool :=
  if hasWildcard wanted then
    match Glob.compile wanted with
    | .ok glob => glob.accepts value
    | .error _ => false
  else value == wanted

theorem demands_iff_wants {field wanted : String} {c : Filter}
    (built : condition field wanted = .ok c) (row : Row) :
    Demands field wanted row ↔ (row.get? field).any (wants wanted) = true := by
  rw [demands_iff_accepts built]
  cases wild : hasWildcard wanted with
  | false =>
    obtain rfl := Except.ok.inj ((condition_of_plain field wild).symm.trans built)
    simp [accepts, Option.any_eq_true, wants, wild]
  | true =>
    obtain ⟨glob, compiled, rfl⟩ := condition_of_wildcard wild built
    simp [accepts, Option.any_eq_true, wants, wild, compiled]

theorem ofRow_between {front own back : List (String × String)}
    (once : (own.map Prod.fst).Nodup) (apart : ∀ p ∈ own, ∀ q ∈ front ++ back, q.1 ≠ p.1)
    {narrow : Filter} (built : ofRow (Table.ofList (front ++ own ++ back)) = .ok narrow) :
    ∃ wide, ofRow (Table.ofList (front ++ back)) = .ok wide ∧ ∀ row,
      narrow.accepts row = true ↔ wide.accepts row = true ∧
        ∀ p ∈ own, (row.get? p.1).any (wants p.2) = true := by
  have found : ∀ p ∈ own, (Table.ofList (front ++ own ++ back)).get? p.1 = some p.2 := by
    intro p member
    exact Table.get?_between_of_mem once
      (fun q behind => apart p member q (List.mem_append_right front behind)) member
  have within : (Table.ofList (front ++ back)).Within (Table.ofList (front ++ own ++ back)) := by
    intro name value bound
    have member := Table.mem_of_get?_ofList bound
    rw [Table.get?_between_of_absent fun p inside => (apart p inside _ member).symm]
    exact bound
  have conditions := (ofRow_exists_iff _).mp ⟨narrow, built⟩
  obtain ⟨wide, made, weaker⟩ := ofRow_of_within within built
  refine ⟨wide, made, ?_⟩
  intro row
  have asked : ∀ p ∈ own, Demands p.1 p.2 row ↔ (row.get? p.1).any (wants p.2) = true := by
    intro p member
    obtain ⟨c, condition⟩ := conditions p.1 p.2 (found p member)
    exact demands_iff_wants condition row
  constructor
  · intro accepted
    refine ⟨weaker row accepted, ?_⟩
    intro p member
    exact (asked p member).mp ((accepts_ofRow built row).mp accepted p.1 p.2 (found p member))
  · intro both
    obtain ⟨accepted, values⟩ := both
    rw [accepts_ofRow built]
    intro name value bound
    by_cases here : ∃ p ∈ own, p.1 = name
    · obtain ⟨p, member, rfl⟩ := here
      obtain rfl := Option.some.inj ((found p member).symm.trans bound)
      exact (asked p member).mpr (values p member)
    · rw [Table.get?_between_of_absent fun p member same => here ⟨p, member, same⟩] at bound
      exact (accepts_ofRow made row).mp accepted name value bound

end Filter

namespace Level

/-- Whether a row has what an element asks for at its level. An element that does not fit asks for
nothing. -/
def asks (level : Level) (element : String) (row : Row) : Bool :=
  ((level.fit element).getD []).all fun (name, wanted) =>
    (row.get? name).any (Filter.wants wanted)

theorem asks_iff {level : Level} {element : String} (nonempty : element ≠ "") (row : Row) :
    level.asks element row = true ↔
      ∀ p ∈ level.gives element, (row.get? p.1).any (Filter.wants p.2) = true := by
  rw [asks, gives, if_neg nonempty, List.all_eq_true]

theorem asks_of_unfit {level : Level} {element : String} (unfit : level.fit element = none)
    (row : Row) : level.asks element row = true := by
  simp [asks, unfit]

def ApartAt (levels : List Level) (index : Nat) (level : Level) : Prop :=
  ∀ other ∈ levels.eraseIdx index, ∀ name ∈ level.names, name ∉ other.names

instance (levels : List Level) (index : Nat) (level : Level) :
    Decidable (level.ApartAt levels index) :=
  inferInstanceAs (Decidable (∀ other ∈ levels.eraseIdx index, ∀ name ∈ level.names,
    name ∉ other.names))

end Level

namespace Walk

theorem given_apart {levels : List Level} {es : List String} {level : Level}
    (apart : level.ApartAt levels es.length) (element : String) (rest : List String) :
    ∀ p ∈ level.gives element,
      ∀ q ∈ given levels es ++ given (levels.drop (es.length + 1)) rest, q.1 ≠ p.1 := by
  intro p gave q others same
  have known := (Level.gives_bounds gave).1
  have unknown : ∀ (i : Nat) (other : Level), i ≠ es.length → levels[i]? = some other →
      p.1 ∉ other.names := by
    intro i other elsewhere at_level
    exact apart other (List.mem_eraseIdx_iff_getElem?.mpr ⟨i, elsewhere, at_level⟩) p.1 known
  rcases List.mem_append.mp others with before | behind
  · obtain ⟨i, other, e, at_level, at_element, gave'⟩ := mem_given before
    obtain ⟨inside, _⟩ := List.getElem?_eq_some_iff.mp at_element
    exact unknown i other (by omega) at_level (same ▸ (Level.gives_bounds gave').1)
  · obtain ⟨i, other, e, at_level, at_element, gave'⟩ := mem_given behind
    rw [List.getElem?_drop] at at_level
    exact unknown _ other (by omega) at_level (same ▸ (Level.gives_bounds gave').1)

/-- What an element in the middle of a path adds to the filter, the rest of it being the same for
every element. -/
theorem filter_between {rule : Rule} {es : List String} (slashFree : ∀ e ∈ es, '/' ∉ e.toList)
    {level : Level} (here : rule.levels[es.length]? = some level) {tail : List String}
    (goesOn : tail ≠ []) (slashFreeTail : ∀ e ∈ tail, '/' ∉ e.toList) :
    ∃ rest, ∀ e, '/' ∉ e.toList →
      (rule.walk (String.join ((es ++ e :: tail).map ("/" ++ ·)))).filter =
        Filter.ofRow (Table.ofList (given rule.levels es ++ level.gives e ++
          given (rule.levels.drop (es.length + 1)) rest)) := by
  obtain ⟨rest, parts⟩ := contributions_between here goesOn
  refine ⟨rest, ?_⟩
  intro e plain
  have slashFreeAll : ∀ f ∈ es ++ e :: tail, '/' ∉ f.toList :=
    List.forall_mem_append.mpr ⟨slashFree, List.forall_mem_cons.mpr ⟨plain, slashFreeTail⟩⟩
  rw [filter, Rule.walk_eq]
  simp only [elements_join _ slashFreeAll, parts]

end Walk

theorem element_narrows_selection {reg : Registry} {action : String} {registered : Registered}
    (found : reg.get? action = some registered) (noSlash : '/' ∉ action.toList)
    (es : List String) (slashFree : ∀ e ∈ es, '/' ∉ e.toList) {level : Level}
    (here : registered.rule.levels[es.length]? = some level) (once : level.names.Nodup)
    (apart : level.ApartAt registered.rule.levels es.length) {element : String}
    (slashFree' : '/' ∉ element.toList) (nonempty : element ≠ "") {tail : List String}
    (goesOn : tail ≠ []) (slashFreeTail : ∀ e ∈ tail, '/' ∉ e.toList) (lib : Library) :
    ∃ w v, reg.resolve (virtualPath action (es ++ element :: tail)) = .ok w ∧
      reg.resolve (virtualPath action (es ++ "" :: tail)) = .ok v ∧
      ∀ narrow, w.filter = .ok narrow → ∃ wide, v.filter = .ok wide ∧
        lib.selection v = .ok ((lib.accepted wide).map (·.id)) ∧
        lib.selection w = .ok
          (((lib.accepted wide).filter fun x => level.asks element x.fields).map (·.id)) ∧
        (level.fit element = none → lib.selection w = lib.selection v) := by
  refine ⟨_, _, resolve_virtualPath found noSlash _, resolve_virtualPath found noSlash _, ?_⟩
  obtain ⟨rest, filter_with⟩ := Walk.filter_between slashFree here goesOn slashFreeTail
  have unnamed : level.gives "" = [] := if_pos rfl
  have without := filter_with "" (by simp)
  rw [unnamed, List.append_nil] at without
  have within := filter_with element slashFree'
  -- Of the two walks only the filters matter now.
  generalize registered.rule.walk (String.join ((es ++ element :: tail).map ("/" ++ ·))) = w
    at within ⊢
  generalize registered.rule.walk (String.join ((es ++ "" :: tail).map ("/" ++ ·))) = v
    at without ⊢
  intro narrow filtered
  obtain ⟨wide, made, meaning⟩ := Filter.ofRow_between
    ((level.gives_names_front element).sublist.nodup once)
    (Walk.given_apart apart element rest) (within.symm.trans filtered)
  have narrowed : lib.accepted narrow =
      (lib.accepted wide).filter fun x => level.asks element x.fields := by
    rw [Library.accepted, Library.accepted, List.filter_filter]
    apply List.filter_congr
    intro x _
    rw [Bool.eq_iff_iff, meaning, Bool.and_eq_true, Level.asks_iff nonempty, and_comm]
  have chosen : lib.selection w = .ok
      (((lib.accepted wide).filter fun x => level.asks element x.fields).map (·.id)) := by
    simp only [Library.selection, filtered, Library.ids, narrowed]
  have chosen' : lib.selection v = .ok ((lib.accepted wide).map (·.id)) := by
    simp only [Library.selection, without, made, Library.ids]
  refine ⟨wide, without.trans made, chosen', chosen, ?_⟩
  intro unfit
  have all : ((lib.accepted wide).filter fun x => level.asks element x.fields) =
      lib.accepted wide := List.filter_eq_self.mpr fun x _ => Level.asks_of_unfit unfit x.fields
  rw [chosen, chosen', all]

theorem element_narrows_selection_tracks :
    Sample.registry.get? "Artists" = some ⟨0, Sample.rule⟩ ∧ '/' ∉ "Artists".toList ∧
      (∀ e ∈ ["Air"], '/' ∉ e.toList) ∧ Sample.rule.levels[1]? = some Sample.track ∧
      Sample.track.names.Nodup ∧ Sample.track.ApartAt Sample.rule.levels 1 ∧
      '/' ∉ "0? - V*".toList ∧ "0? - V*" ≠ "" ∧ [""] ≠ [] ∧ (∀ e ∈ [""], '/' ∉ e.toList) ∧
      ∃ w v, Sample.registry.resolve (virtualPath "Artists" ["Air", "0? - V*", ""]) = .ok w ∧
        Sample.registry.resolve (virtualPath "Artists" ["Air", "", ""]) = .ok v ∧
        Sample.library.selection v = .ok [1, 3] ∧ Sample.library.selection w = .ok [1] := by
  have slashFree : ∀ e ∈ ["Air"], '/' ∉ e.toList := by decide
  have here : Sample.rule.levels[["Air"].length]? = some Sample.track := by decide
  have once : Sample.track.names.Nodup := by decide
  have apart : Sample.track.ApartAt Sample.rule.levels ["Air"].length := by decide
  have slashFree' : '/' ∉ "0? - V*".toList := by decide
  have goesOn : [""] ≠ [] := by decide
  obtain ⟨w, v, resolved, resolved', narrows⟩ := element_narrows_selection
    Sample.artists_registered (by decide) ["Air"] slashFree here once apart slashFree' (by decide)
    goesOn (by decide) Sample.library
  have walked : Sample.registry.resolve (virtualPath "Artists" ["Air", "0? - V*", ""]) =
      .ok (Sample.rule.walk "/Air/0? - V*/") := by rfl
  have walked' : Sample.registry.resolve (virtualPath "Artists" ["Air", "", ""]) =
      .ok (Sample.rule.walk "/Air//") := by rfl
  obtain rfl := Except.ok.inj (walked.symm.trans resolved)
  obtain rfl := Except.ok.inj (walked'.symm.trans resolved')
  obtain ⟨wide, made, all, some_ids, _⟩ := narrows _ rfl
  obtain rfl : .equals "artist" "Air" = wide := Except.ok.inj made
  have before : ((Sample.library.accepted (.equals "artist" "Air")).map (·.id)) = [1, 3] := by
    decide
  have kept : (((Sample.library.accepted (.equals "artist" "Air")).filter fun x =>
      Sample.track.asks "0? - V*" x.fields).map (·.id)) = [1] := by decide
  rw [before] at all
  rw [kept] at some_ids
  exact ⟨Sample.artists_registered, by decide, slashFree, here, once, apart, slashFree', by decide,
    goesOn, by decide, _, _, resolved, resolved', all, some_ids⟩

/-- The first element behind an action with a slash in its name is bound by the second level of the
shorter action, under another name. -/
theorem element_narrows_selection_fails_nested :
    (Registry.empty.add "a" "/${x}/${y}").bind (·.add "a/b" "/${x}") = .ok Sample.nested ∧
      (∃ registered, Sample.nested.get? "a/b" = some registered ∧
        registered.rule.levels[0]? = some Sample.inner ∧
        Sample.inner.ApartAt registered.rule.levels 0) ∧
      Sample.inner.names.Nodup ∧
      (Sample.nested.resolve (virtualPath "a/b" ["", ""])).bind Walk.filter =
        .ok (.equals "x" "b") ∧
      (Sample.nested.resolve (virtualPath "a/b" ["c", ""])).bind Walk.filter =
        .ok (.and (.equals "y" "c") (.equals "x" "b")) ∧
      (Sample.nested.resolve (virtualPath "a/b" ["c", ""])).bind Sample.pair.selection ≠
        .ok (((Sample.pair.accepted (.equals "x" "b")).filter
          fun x => Sample.inner.asks "c" x.fields).map (·.id)) := by
  refine ⟨by rfl, ⟨_, rfl, by decide, by decide⟩, by decide, by rfl, by rfl, ?_⟩
  intro narrowed
  have chosen : (Sample.nested.resolve (virtualPath "a/b" ["c", ""])).bind
      Sample.pair.selection = .ok [1] := by rfl
  have wanted : ((Sample.pair.accepted (.equals "x" "b")).filter
      fun x => Sample.inner.asks "c" x.fields).map (·.id) = [] := by decide
  rw [chosen, wanted] at narrowed
  exact absurd (Except.ok.inj narrowed) (by decide)

end MediaPaths
