import Mathlib.Logic.ExistsUnique
import MediaPaths.Proofs.Conjunction
import MediaPaths.Proofs.Listing

/-!
Drilling down. A path that ends in a slash lists the lines of a level; each of the lines, put behind
the slash, selects the entries that have this line. So the lines divide the entries among them.
-/
namespace MediaPaths

structure Level.Selectable (level : Level) (row : Row) : Prop where
  present : ∀ name ∈ level.names, (row.get? name).isSome = true
  legible : level.template.Legible row
  nonempty : level.render row ≠ ""
  noSlash : '/' ∉ (level.render row).toList
  noStar : '*' ∉ (level.render row).toList
  noQuestion : '?' ∉ (level.render row).toList

def Library.Finds (lib : Library) (reg : Registry) (path : String) (x : Entry) : Prop :=
  ∃ filter, (reg.resolve path).bind Walk.filter = .ok filter ∧ x ∈ lib.accepted filter

/-- The lines listed behind a path divide the entries of a filter, by how the entries look at a
level: none is lost, none is found twice, and no other is found. -/
structure Library.Divides (lib : Library) (reg : Registry) (path : String) (level : Level)
    (filter : Filter) (lines : List String) : Prop where
  listed : (reg.resolve (path ++ "/")).bind lib.list = .ok lines
  selected : ∀ l ∈ lines, (reg.resolve (path ++ "/" ++ l)).bind lib.selection =
    .ok (((lib.accepted filter).filter fun x => level.render x.fields = l).map (·.id))
  once : ∀ x ∈ lib.accepted filter, ∃! l, l ∈ lines ∧ lib.Finds reg (path ++ "/" ++ l) x
  inside : ∀ l ∈ lines, ∀ x, lib.Finds reg (path ++ "/" ++ l) x → x ∈ lib.accepted filter

namespace Level.Selectable

variable {level : Level} {row : Row}

theorem plain (chosen : level.Selectable row) : hasWildcard (level.render row) = false :=
  (no_wildcard_iff _).mpr ⟨chosen.noStar, chosen.noQuestion⟩

theorem get?_eq (chosen : level.Selectable row) {name : String} (member : name ∈ level.names) :
    row.get? name = some (Template.shown row name) :=
  Template.shown_eq (chosen.present name member)

theorem gives_eq (chosen : level.Selectable row) : level.gives (level.render row) =
    level.names.map fun name => (name, Template.shown row name) :=
  Level.gives_render chosen.legible chosen.nonempty

theorem plain_value (chosen : level.Selectable row) :
    ∀ name ∈ level.names, hasWildcard (Template.shown row name) = false := by
  intro name member
  have given : (name, Template.shown row name) ∈ level.gives (level.render row) := by
    rw [chosen.gives_eq]
    exact List.mem_map.mpr ⟨name, member, rfl⟩
  exact Level.gives_plain chosen.plain (name, Template.shown row name) given

theorem render_eq_iff {other : Row} (chosen : level.Selectable row)
    (chosen' : level.Selectable other) : level.render other = level.render row ↔
      ∀ name ∈ level.names, other.get? name = some (Template.shown row name) := by
  constructor
  · intro same name member
    have shown := Template.shown_eq_of_render_eq chosen'.legible chosen.legible
      (Level.template_render_eq same) name member
    rw [chosen'.get?_eq member, shown]
  · intro values
    apply Level.render_congr
    intro name member
    rw [values name member, chosen.get?_eq member]

end Level.Selectable

namespace Walk

theorem stop_concat {depth : Nat} {es : List String} (inside : es.length < depth) (e : String) :
    stop depth (es ++ [e]) = some es.length := by
  have shorter : min (es ++ [e]).length depth = es.length + 1 := by
    simp only [List.length_append, List.length_singleton]
    omega
  rw [stop, shorter]

theorem choosesLast_concat_empty (depth : Nat) (es : List String) :
    choosesLast depth (es ++ [""]) = false := by
  simp [choosesLast]

end Walk

section Levels

variable {reg : Registry} {action : String} {registered : Registered} {es : List String}
  {level : Level}

theorem resolve_concat (found : reg.get? action = some registered)
    (noSlash : '/' ∉ action.toList) (slashFree : ∀ e ∈ es, '/' ∉ e.toList)
    (here : registered.rule.levels[es.length]? = some level) {e : String}
    (slashFree' : '/' ∉ e.toList) (plain : hasWildcard e = false) :
    reg.resolve (virtualPath action (es ++ [e])) =
      .ok ⟨registered.rule,
        (Table.ofList (Walk.given registered.rule.levels es)).insertAll (level.gives e),
        registered.rule.levels.flatMap Level.names, some es.length, none,
        Walk.choosesLast registered.rule.levels.length (es ++ [e])⟩ := by
  obtain ⟨inside, _⟩ := List.getElem?_eq_some_iff.mp here
  have slashFreeAll : ∀ f ∈ es ++ [e], '/' ∉ f.toList :=
    List.forall_mem_append.mpr ⟨slashFree, List.forall_mem_singleton.mpr slashFree'⟩
  rw [resolve_virtualPath found noSlash, registered.rule.walk_eq]
  simp only [elements_join _ slashFreeAll, Walk.contributions_concat plain,
    Walk.given_concat here, Walk.visited, Walk.openToken_concat plain, Walk.stop_concat inside,
    Table.ofList, Table.insertAll_append, Option.isSome_none, Bool.false_eq_true, ↓reduceIte]

theorem list_open (lib : Library) {bindings : Row} {filter : Filter}
    (here : registered.rule.levels[es.length]? = some level)
    (filtered : Filter.ofRow bindings = .ok filter) :
    lib.list ⟨registered.rule, bindings, registered.rule.levels.flatMap Level.names,
        some es.length, none, false⟩ = .ok (lib.plainLines filter none level) :=
  lib.list_at (w := ⟨_, bindings, _, _, _, _⟩) rfl here rfl filtered rfl (Walk.names_among here)

theorem select_line (lib : Library) {bindings : Row} {filter : Filter}
    (filtered : Filter.ofRow bindings = .ok filter)
    (selectable : ∀ x ∈ lib.accepted filter, level.Selectable x.fields)
    {x : Entry} (member : x ∈ lib.accepted filter) :
    ∃ chosen, Filter.ofRow (bindings.insertAll (level.gives (level.render x.fields))) =
        .ok chosen ∧
      lib.accepted chosen = (lib.accepted filter).filter fun y =>
        level.render y.fields = level.render x.fields := by
  have own := selectable x member
  obtain ⟨chosen, made, narrows⟩ := Filter.ofRow_insertAll filtered own.plain_value
    (List.mem_filter.mp member).2 fun name => own.get?_eq
  refine ⟨chosen, own.gives_eq ▸ made, ?_⟩
  rw [Library.accepted, Library.accepted, List.filter_filter]
  apply List.filter_congr
  intro y inside
  rw [Bool.eq_iff_iff, narrows, Bool.and_eq_true, decide_eq_true_eq, and_comm]
  apply and_congr_left
  intro accepted
  exact (own.render_eq_iff (selectable y (List.mem_filter.mpr ⟨inside, accepted⟩))).symm

theorem mem_plainLines {lib : Library} {filter : Filter} {line : String} :
    line ∈ lib.plainLines filter none level ↔
      ∃ x ∈ lib.accepted filter, level.render x.fields = line := by
  simp [Library.plainLines_none]

/-- Every line leads to a filter of its own, which accepts the entries with this line. -/
theorem resolve_line (found : reg.get? action = some registered)
    (noSlash : '/' ∉ action.toList) (slashFree : ∀ e ∈ es, '/' ∉ e.toList)
    (here : registered.rule.levels[es.length]? = some level) {lib : Library} {filter : Filter}
    (filtered : Filter.ofRow (Table.ofList (Walk.given registered.rule.levels es)) = .ok filter)
    (selectable : ∀ x ∈ lib.accepted filter, level.Selectable x.fields) {line : String}
    (listed : line ∈ lib.plainLines filter none level) :
    ∃ w chosen, reg.resolve (virtualPath action es ++ "/" ++ line) = .ok w ∧
      w.filter = .ok chosen ∧
      lib.accepted chosen = (lib.accepted filter).filter fun y => level.render y.fields = line := by
  obtain ⟨x, member, rfl⟩ := mem_plainLines.mp listed
  have own := selectable x member
  obtain ⟨chosen, made, narrowed⟩ := select_line lib filtered selectable member
  have resolved := resolve_concat found noSlash slashFree here own.noSlash own.plain
  rw [virtualPath_concat] at resolved
  exact ⟨_, chosen, resolved, made, narrowed⟩

end Levels

theorem lines_divide_entries {reg : Registry} {action : String} {registered : Registered}
    (found : reg.get? action = some registered) (noSlash : '/' ∉ action.toList)
    (es : List String) (slashFree : ∀ e ∈ es, '/' ∉ e.toList) {level : Level}
    (here : registered.rule.levels[es.length]? = some level) (lib : Library) {filter : Filter}
    (filtered : (reg.resolve (virtualPath action es ++ "/")).bind Walk.filter = .ok filter)
    (selectable : ∀ x ∈ lib.accepted filter, level.Selectable x.fields) :
    ∃ lines, lib.Divides reg (virtualPath action es) level filter lines := by
  have opened := resolve_concat found noSlash slashFree here (e := "") (by simp) (by decide)
  rw [virtualPath_concat_empty, Walk.choosesLast_concat_empty] at opened
  simp only [Level.gives, ↓reduceIte, Table.insertAll] at opened
  rw [opened] at filtered
  have line_leads := fun (l : String) (listed : l ∈ lib.plainLines filter none level) =>
    resolve_line found noSlash slashFree here filtered selectable listed
  have finds_iff : ∀ l ∈ lib.plainLines filter none level, ∀ x,
      lib.Finds reg (virtualPath action es ++ "/" ++ l) x ↔
        x ∈ lib.accepted filter ∧ level.render x.fields = l := by
    intro l listed x
    obtain ⟨w, chosen, resolved, made, narrowed⟩ := line_leads l listed
    simp only [Library.Finds, resolved, Except.bind, made, Except.ok.injEq, exists_eq_left',
      narrowed, List.mem_filter, decide_eq_true_eq]
  refine ⟨lib.plainLines filter none level, ?_, ?_, ?_, ?_⟩
  · rw [opened]
    exact list_open lib here filtered
  · intro l listed
    obtain ⟨w, chosen, resolved, made, narrowed⟩ := line_leads l listed
    simp only [resolved, Except.bind, Library.selection, made, Library.ids, narrowed]
  · intro x member
    have listed : level.render x.fields ∈ lib.plainLines filter none level :=
      mem_plainLines.mpr ⟨x, member, rfl⟩
    refine ⟨level.render x.fields, ⟨listed, (finds_iff _ listed x).mpr ⟨member, rfl⟩⟩, ?_⟩
    intro l other
    obtain ⟨listed', finds⟩ := other
    exact ((finds_iff l listed' x).mp finds).2.symm
  · intro l listed x finds
    exact ((finds_iff l listed x).mp finds).1

namespace Sample

def shelf : Library :=
  ⟨[⟨1, Table.ofList [("artist", "Air"), ("n", "01"), ("title", "Venus")]⟩,
    ⟨2, Table.ofList [("artist", "Moby"), ("n", "01")]⟩,
    ⟨3, Table.ofList [("artist", "Air"), ("n", "02"), ("title", "Run - Live")]⟩,
    ⟨4, Table.ofList [("artist", "Air"), ("n", "01"), ("title", "Venus")]⟩]⟩

theorem accepted_air : shelf.accepted (.equals "artist" "Air") =
    [⟨1, Table.ofList [("artist", "Air"), ("n", "01"), ("title", "Venus")]⟩,
      ⟨3, Table.ofList [("artist", "Air"), ("n", "02"), ("title", "Run - Live")]⟩,
      ⟨4, Table.ofList [("artist", "Air"), ("n", "01"), ("title", "Venus")]⟩] := by decide

theorem track_selectable :
    ∀ x ∈ shelf.accepted (.equals "artist" "Air"), track.Selectable x.fields := by
  rw [accepted_air]
  simp only [List.forall_mem_cons]
  refine ⟨?_, ?_, ?_, by simp⟩ <;>
    exact ⟨by decide, by decide, by decide, by decide, by decide, by decide⟩

end Sample

theorem lines_divide_entries_air :
    Sample.registry.get? "Artists" = some ⟨0, Sample.rule⟩ ∧ '/' ∉ "Artists".toList ∧
      (∀ e ∈ ["Air"], '/' ∉ e.toList) ∧ Sample.rule.levels[1]? = some Sample.track ∧
      (Sample.registry.resolve (virtualPath "Artists" ["Air"] ++ "/")).bind Walk.filter =
        .ok (.equals "artist" "Air") ∧
      (∀ x ∈ Sample.shelf.accepted (.equals "artist" "Air"),
        Sample.track.Selectable x.fields) ∧
      ∃ lines, Sample.shelf.Divides Sample.registry "//Artists/Air" Sample.track
        (.equals "artist" "Air") lines ∧ lines = ["01 - Venus", "02 - Run - Live"] := by
  have here : Sample.rule.levels[["Air"].length]? = some Sample.track := by decide
  have filtered : (Sample.registry.resolve (virtualPath "Artists" ["Air"] ++ "/")).bind
      Walk.filter = .ok (.equals "artist" "Air") := by rfl
  refine ⟨Sample.artists_registered, by decide, by decide, here, filtered,
    Sample.track_selectable, ?_⟩
  obtain ⟨lines, divides⟩ := lines_divide_entries Sample.artists_registered (by decide) ["Air"]
    (by decide) here Sample.shelf filtered Sample.track_selectable
  refine ⟨lines, divides, ?_⟩
  have listed : (Sample.registry.resolve (virtualPath "Artists" ["Air"] ++ "/")).bind
      Sample.shelf.list = .ok ["01 - Venus", "02 - Run - Live"] := by rfl
  exact Except.ok.inj (divides.listed.symm.trans listed)

namespace Sample

def inner : Level := ⟨"${x}", by decide, by decide, by decide⟩

def outer : Level := ⟨"${y}", by decide, by decide, by decide⟩

def nested : Registry :=
  ⟨Table.ofList [("a", ⟨0, ⟨"/${x}/${y}", [inner, outer], by decide⟩⟩),
    ("a/b", ⟨1, ⟨"/${x}", [inner], by decide⟩⟩)]⟩

def pair : Library := ⟨[⟨1, Table.ofList [("x", "b"), ("y", "c")]⟩]⟩

end Sample

/-- The path of an action with a slash in its name is taken for a path of another action. -/
theorem lines_divide_entries_fails_nested :
    (Registry.empty.add "a" "/${x}/${y}").bind (·.add "a/b" "/${x}") = .ok Sample.nested ∧
      (∃ registered, Sample.nested.get? "a/b" = some registered ∧
        registered.rule.levels[0]? = some Sample.inner) ∧
      (Sample.nested.resolve (virtualPath "a/b" [] ++ "/")).bind Walk.filter =
        .ok (.equals "x" "b") ∧
      (∀ x ∈ Sample.pair.accepted (.equals "x" "b"), Sample.inner.Selectable x.fields) ∧
      ¬ ∃ lines, Sample.pair.Divides Sample.nested (virtualPath "a/b" []) Sample.inner
        (.equals "x" "b") lines := by
  have accepted : Sample.pair.accepted (.equals "x" "b") =
      [⟨1, Table.ofList [("x", "b"), ("y", "c")]⟩] := by decide
  refine ⟨by rfl, ⟨_, rfl, by decide⟩, by rfl, ?_, ?_⟩
  · rw [accepted]
    simp only [List.forall_mem_singleton]
    exact ⟨by decide, by decide, by decide, by decide, by decide, by decide⟩
  · intro divided
    obtain ⟨lines, divides⟩ := divided
    have listed : (Sample.nested.resolve (virtualPath "a/b" [] ++ "/")).bind Sample.pair.list =
        .ok ["c"] := by rfl
    obtain rfl := Except.ok.inj (divides.listed.symm.trans listed)
    have chosen : (Sample.nested.resolve (virtualPath "a/b" [] ++ "/" ++ "c")).bind
        Sample.pair.selection = .ok [1] := by rfl
    have claimed := Except.ok.inj (chosen.symm.trans (divides.selected "c" (by simp)))
    rw [accepted] at claimed
    exact absurd claimed (by decide)

end MediaPaths
