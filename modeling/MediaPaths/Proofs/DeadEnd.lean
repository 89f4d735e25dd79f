import MediaPaths.Proofs.ReadBack
import MediaPaths.Proofs.TrailingSlash
import MediaPaths.Proofs.TypedElement

/-!
No line of a listing is a dead end. Whatever the line of an accepted entry looks like, the path that
goes on with it still accepts the entry: an empty line binds nothing, concrete text binds the entry's
own values, and a line with wildcards is left pending at the end of a path and bound as patterns
further on, which accept their own text.
-/
namespace MediaPaths

/-- Binding names to a row's own values keeps the row accepted, whatever was asked of these names
before, and also where the values are taken for patterns. -/
theorem Filter.accepts_insertAll_own {bindings : Row} {f g : Filter}
    {pairs : List (String × String)} (built : ofRow bindings = .ok f)
    (made : ofRow (bindings.insertAll pairs) = .ok g) {row : Row} (accepted : f.accepts row = true)
    (own : ∀ p ∈ pairs, row.get? p.1 = some p.2) : g.accepts row = true := by
  rw [accepts_ofRow made]
  intro name value bound
  obtain ⟨c, condition⟩ := (ofRow_exists_iff _).mp ⟨g, made⟩ name value bound
  rw [Table.get?_insertAll_eq_or] at bound
  rcases Option.or_eq_some_iff.mp bound with new | ⟨_, old⟩
  · exact demands_own condition (own (name, value) (Table.mem_of_get?_ofList new))
  · exact (accepts_ofRow built row).mp accepted name value old

theorem Level.gives_render_own {level : Level} {row : Row}
    (present : ∀ name ∈ level.names, (row.get? name).isSome = true)
    (legible : level.template.Legible row) :
    ∀ p ∈ level.gives (level.render row), row.get? p.1 = some p.2 := by
  intro p gave
  by_cases nonempty : level.render row = ""
  · rw [gives, if_pos nonempty] at gave
    simp at gave
  · rw [gives_render legible nonempty] at gave
    obtain ⟨name, member, rfl⟩ := List.mem_map.mp gave
    exact Template.shown_eq (present name member)

section Levels

variable {reg : Registry} {action : String} {registered : Registered} {es : List String}
  {level : Level}

theorem resolve_last (found : reg.get? action = some registered) (noSlash : '/' ∉ action.toList)
    (slashFree : ∀ e ∈ es, '/' ∉ e.toList)
    (here : registered.rule.levels[es.length]? = some level) {e : String}
    (slashFree' : '/' ∉ e.toList) :
    ∃ w, reg.resolve (virtualPath action es ++ "/" ++ e) = .ok w ∧
      w.pending = (if hasWildcard e then some e else none) ∧
      w.bindings = (Table.ofList (Walk.given registered.rule.levels es)).insertAll
        (if hasWildcard e then [] else level.gives e) := by
  cases wild : hasWildcard e with
  | true =>
    obtain ⟨inside, _⟩ := List.getElem?_eq_some_iff.mp here
    exact ⟨_, resolve_pending found noSlash slashFree inside slashFree' wild, rfl, rfl⟩
  | false =>
    have resolved := resolve_concat found noSlash slashFree here slashFree' wild
    rw [virtualPath_concat] at resolved
    exact ⟨_, resolved, rfl, rfl⟩

/-- A slash behind an element has it bound, whatever it holds. -/
theorem resolve_passed (found : reg.get? action = some registered) (noSlash : '/' ∉ action.toList)
    (slashFree : ∀ e ∈ es, '/' ∉ e.toList)
    (here : registered.rule.levels[es.length]? = some level) {e : String}
    (slashFree' : '/' ∉ e.toList) :
    ∃ v, reg.resolve (virtualPath action es ++ "/" ++ e ++ "/") = .ok v ∧ v.pending = none ∧
      v.bindings = (Table.ofList (Walk.given registered.rule.levels es)).insertAll
        (level.gives e) := by
  have slashFreeAll : ∀ f ∈ es ++ [e] ++ [""], '/' ∉ f.toList := by
    simp only [List.forall_mem_append, List.forall_mem_singleton]
    exact ⟨⟨slashFree, slashFree'⟩, by simp⟩
  have passed : Walk.contributions registered.rule.levels (es ++ [e] ++ [""]) =
      Walk.given registered.rule.levels es ++ level.gives e := by
    rw [Walk.contributions_concat (by decide), Walk.given_append, Walk.given_open,
      List.append_nil, Walk.given_concat here]
  rw [← virtualPath_concat, ← virtualPath_concat_empty]
  refine ⟨_, resolve_virtualPath found noSlash _, ?_, ?_⟩
  · rw [Rule.walk_eq, elements_join _ slashFreeAll]
    exact Walk.openToken_concat (by decide) _ _
  · rw [Rule.walk_eq, elements_join _ slashFreeAll]
    simp only [passed, Table.ofList, Table.insertAll_append]

end Levels

theorem listed_line_keeps_entry {reg : Registry} {action : String} {registered : Registered}
    (found : reg.get? action = some registered) (noSlash : '/' ∉ action.toList)
    (es : List String) (slashFree : ∀ e ∈ es, '/' ∉ e.toList) {level : Level}
    (here : registered.rule.levels[es.length]? = some level) (lib : Library) {filter : Filter}
    (filtered : (reg.resolve (virtualPath action es ++ "/")).bind Walk.filter = .ok filter)
    {x : Entry} (member : x ∈ lib.accepted filter)
    (present : ∀ name ∈ level.names, (x.fields.get? name).isSome = true)
    (slashFree' : '/' ∉ (level.render x.fields).toList)
    (legible : level.template.Legible x.fields) :
    let line := level.render x.fields
    ∃ w v, reg.resolve (virtualPath action es ++ "/" ++ line) = .ok w ∧
      reg.resolve (virtualPath action es ++ "/" ++ line ++ "/") = .ok v ∧
      w.pending = (if hasWildcard line then some line else none) ∧ v.pending = none ∧
      (∃ chosen, w.filter = .ok chosen ∧ x ∈ lib.accepted chosen) ∧
      ∀ chosen, v.filter = .ok chosen → x ∈ lib.accepted chosen := by
  intro line
  rw [resolve_open found noSlash slashFree here] at filtered
  obtain ⟨inside, accepted⟩ := List.mem_filter.mp member
  have own := Level.gives_render_own present legible
  obtain ⟨w, resolved, pending, bindings⟩ :=
    resolve_last found noSlash slashFree here slashFree'
  obtain ⟨v, resolved', nothing, bindings'⟩ :=
    resolve_passed found noSlash slashFree here slashFree'
  refine ⟨w, v, resolved, resolved', pending, nothing, ?_, ?_⟩
  · have plain : ∀ p ∈ (if hasWildcard line then [] else level.gives line),
        hasWildcard p.2 = false ∧ x.fields.get? p.1 = some p.2 := by
      cases wild : hasWildcard line with
      | true => simp
      | false => exact fun p gave => ⟨Level.gives_plain wild p gave, own p gave⟩
    obtain ⟨chosen, made, _⟩ :=
      Filter.ofRow_insertAll_plain filtered fun p gave => (plain p gave).1
    have still := Filter.accepts_insertAll_own filtered made accepted
      fun p gave => (plain p gave).2
    exact ⟨chosen, by rw [Walk.filter, bindings, made], List.mem_filter.mpr ⟨inside, still⟩⟩
  · intro chosen made
    rw [Walk.filter, bindings'] at made
    have still := Filter.accepts_insertAll_own filtered made accepted own
    exact List.mem_filter.mpr ⟨inside, still⟩

namespace Sample

def stage : Library :=
  ⟨[⟨1, live⟩, ⟨2, Table.ofList [("artist", "Whom"), ("n", "01"), ("title", "Venus")]⟩]⟩

end Sample

theorem listed_line_keeps_entry_live :
    Sample.registry.get? "Artists" = some ⟨0, Sample.rule⟩ ∧ '/' ∉ "Artists".toList ∧
      (∀ e ∈ ([] : List String), '/' ∉ e.toList) ∧
      Sample.rule.levels[0]? = some Sample.artist ∧
      (Sample.registry.resolve (virtualPath "Artists" [] ++ "/")).bind Walk.filter =
        .ok .everything ∧
      ⟨1, Sample.live⟩ ∈ Sample.stage.accepted .everything ∧
      (∀ name ∈ Sample.artist.names, (Sample.live.get? name).isSome = true) ∧
      '/' ∉ (Sample.artist.render Sample.live).toList ∧
      Sample.artist.template.Legible Sample.live ∧
      ∃ w v chosen, Sample.registry.resolve "//Artists/Who?" = .ok w ∧
        Sample.registry.resolve "//Artists/Who?/" = .ok v ∧ w.pending = some "Who?" ∧
        v.filter = .ok chosen ∧ chosen ≠ .everything ∧
        ⟨1, Sample.live⟩ ∈ Sample.stage.accepted chosen := by
  have slashFree : ∀ e ∈ ([] : List String), '/' ∉ e.toList := by decide
  have here : Sample.rule.levels[([] : List String).length]? = some Sample.artist := by decide
  have filtered : (Sample.registry.resolve (virtualPath "Artists" [] ++ "/")).bind Walk.filter =
      .ok .everything := by rfl
  have member : ⟨1, Sample.live⟩ ∈ Sample.stage.accepted .everything := by decide
  have present : ∀ name ∈ Sample.artist.names, (Sample.live.get? name).isSome = true := by decide
  have slashFree' : '/' ∉ (Sample.artist.render Sample.live).toList := by decide
  have legible : Sample.artist.template.Legible Sample.live := by decide
  obtain ⟨w, v, resolved, resolved', pending, _, _, keeps⟩ := listed_line_keeps_entry
    Sample.artists_registered (by decide) [] slashFree here Sample.stage filtered member present
    slashFree' legible
  have shown : Sample.artist.render Sample.live = "Who?" := by decide
  rw [shown] at resolved resolved' pending
  obtain rfl : Sample.rule.walk "/Who?/" = v := Except.ok.inj resolved'
  exact ⟨Sample.artists_registered, by decide, slashFree, here, filtered, member, present,
    slashFree', legible, w, _, _, resolved, resolved', pending, rfl, by decide, keeps _ rfl⟩

/-- Behind an action with a slash in its name, the line of an entry is bound at the second level of
the shorter action, where the entry has another value. -/
theorem listed_line_keeps_entry_fails_nested :
    (Registry.empty.add "a" "/${x}/${y}").bind (·.add "a/b" "/${x}") = .ok Sample.nested ∧
      (∃ registered, Sample.nested.get? "a/b" = some registered ∧
        registered.rule.levels[0]? = some Sample.inner) ∧
      (Sample.nested.resolve (virtualPath "a/b" [] ++ "/")).bind Walk.filter =
        .ok (.equals "x" "b") ∧
      ∃ x ∈ Sample.pair.accepted (.equals "x" "b"),
        (∀ name ∈ Sample.inner.names, (x.fields.get? name).isSome = true) ∧
        '/' ∉ (Sample.inner.render x.fields).toList ∧
        Sample.inner.template.Legible x.fields ∧ Sample.inner.render x.fields = "b" ∧
        ∃ chosen, (Sample.nested.resolve (virtualPath "a/b" [] ++ "/" ++ "b")).bind Walk.filter =
          .ok chosen ∧ x ∉ Sample.pair.accepted chosen := by
  refine ⟨by rfl, ⟨_, rfl, by decide⟩, by rfl, ?_⟩
  refine ⟨⟨1, Table.ofList [("x", "b"), ("y", "c")]⟩, by decide, by decide, by decide, by decide,
    by decide, .and (.equals "y" "b") (.equals "x" "b"), by rfl, by decide⟩

end MediaPaths
