import MediaPaths.Proofs.Course

/-!
What a virtual path comes to, for every registry, every action without a slash and every list of
elements: where the walk stands, what it keeps open, which names it met and what it bound.
-/
namespace MediaPaths

theorem Walk.stop_eq {depth : Nat} (deep : 0 < depth) (es : List String) :
    stop depth es = if es = [] then none else some (min es.length depth - 1) := by
  unfold stop
  cases es with
  | nil => simp
  | cons e es =>
    simp only [List.length_cons, reduceCtorEq, ↓reduceIte]
    split <;> simp <;> omega

theorem Walk.elements_of_stop_none {depth : Nat} (deep : 0 < depth) {es : List String}
    (stopped : stop depth es = none) : es = [] := by
  rw [stop_eq deep] at stopped
  split at stopped
  · assumption
  · cases stopped

theorem Walk.index_of_stop_some {depth i : Nat} {es : List String}
    (stopped : stop depth es = some i) : i + 1 = min es.length depth := by
  unfold stop at stopped
  split at stopped
  · cases stopped
  · rename_i n shorter
    rw [shorter, Option.some.inj stopped]

theorem Walk.openToken_eq_some_iff (depth : Nat) (es : List String) (token : String) :
    openToken depth es = some token ↔
      1 ≤ es.length ∧ es.length ≤ depth ∧ es.getLast? = some token ∧
        ('*' ∈ token.toList ∨ '?' ∈ token.toList) := by
  rw [← hasWildcard_iff, openToken]
  by_cases within : es.length ≤ depth
  · rw [if_pos within, Option.filter_eq_some_iff]
    constructor
    · intro pending
      obtain ⟨last, wild⟩ := pending
      have some_element := List.length_pos_of_mem (List.mem_of_getLast? last)
      exact ⟨by omega, within, last, wild⟩
    · intro pending
      obtain ⟨_, _, last, wild⟩ := pending
      exact ⟨last, wild⟩
  · simp [within]

theorem Walk.choosesLast_iff (depth : Nat) (es : List String) :
    choosesLast depth es = true ↔
      1 ≤ es.length ∧ es.length ≤ depth ∧
        ∃ last, es.getLast? = some last ∧ last ≠ "" ∧ '*' ∉ last.toList ∧ '?' ∉ last.toList := by
  simp only [← no_wildcard_iff, choosesLast, Bool.and_eq_true, decide_eq_true_eq,
    Option.any_eq_true]
  constructor
  · intro settled
    obtain ⟨within, last, at_end, chosen⟩ := settled
    have some_element := List.length_pos_of_mem (List.mem_of_getLast? at_end)
    exact ⟨by omega, within, last, at_end, by simpa using chosen⟩
  · intro settled
    obtain ⟨_, within, last, at_end, chosen⟩ := settled
    exact ⟨within, last, at_end, by simpa using chosen⟩

/-- What a walk binds is a piece of an element at or before the place where it stopped, under a name
of the level of that element. -/
theorem Walk.bound_before_stop {levels : List Level} {es : List String} (deep : levels ≠ [])
    {name value : String}
    (found : (Table.ofList (contributions levels es)).get? name = some value) :
    ∃ (i : Nat) (level : Level) (e : String) (p : Nat), levels[i]? = some level ∧
      name ∈ level.names ∧ es[i]? = some e ∧ value.toList <:+: e.toList ∧
      stop levels.length es = some p ∧ i ≤ p := by
  obtain ⟨i, level, e, at_level, at_element, given⟩ :=
    mem_contributions (Table.mem_of_get?_ofList found)
  obtain ⟨known, piece⟩ := Level.gives_bounds given
  obtain ⟨in_levels, _⟩ := List.getElem?_eq_some_iff.mp at_level
  obtain ⟨in_elements, _⟩ := List.getElem?_eq_some_iff.mp at_element
  have some_element : es ≠ [] := List.ne_nil_of_length_pos (by omega)
  refine ⟨i, level, e, min es.length levels.length - 1, at_level, known, at_element, piece, ?_, ?_⟩
  · rw [stop_eq (List.length_pos_iff.mpr deep), if_neg some_element]
  · omega

theorem resolve_closed_form {reg : Registry} {action : String} {registered : Registered}
    (found : reg.get? action = some registered) (noSlash : '/' ∉ action.toList)
    (es : List String) (slashFree : ∀ e ∈ es, '/' ∉ e.toList) :
    let levels := registered.rule.levels
    ∃ w, reg.resolve (virtualPath action es) = .ok w ∧ w.rule = registered.rule ∧
      w.position = (if es = [] then none else some (min es.length levels.length - 1)) ∧
      (∀ token, w.pending = some token ↔
        1 ≤ es.length ∧ es.length ≤ levels.length ∧ es.getLast? = some token ∧
          ('*' ∈ token.toList ∨ '?' ∈ token.toList)) ∧
      (w.settled = true ↔
        1 ≤ es.length ∧ es.length ≤ levels.length ∧
          ∃ last, es.getLast? = some last ∧ last ≠ "" ∧ '*' ∉ last.toList ∧ '?' ∉ last.toList) ∧
      w.fields = (if w.pending.isSome then levels.take es.length else levels).flatMap Level.names ∧
      (∀ name, w.bindings.get? name =
        ((levels.zip (if w.pending.isSome then es.dropLast else es)).flatMap fun (level, e) =>
          if e = "" then [] else (level.fit e).getD []).reverse.lookup name) ∧
      (∀ name value, w.bindings.get? name = some value → '/' ∉ value.toList ∧
        ∃ (i : Nat) (level : Level) (p : Nat), levels[i]? = some level ∧ name ∈ level.names ∧
          w.position = some p ∧ i ≤ p) := by
  intro levels
  have walked := registered.rule.walk_eq (String.join (es.map ("/" ++ ·)))
  simp only [elements_join es slashFree] at walked
  refine ⟨_, resolve_virtualPath found noSlash es, ?_⟩
  rw [walked]
  refine ⟨rfl, Walk.stop_eq registered.rule.length_pos es,
    Walk.openToken_eq_some_iff levels.length es, Walk.choosesLast_iff levels.length es, rfl, ?_, ?_⟩
  · intro name
    exact Table.get?_ofList _ name
  · intro name value bound
    obtain ⟨i, level, e, p, at_level, known, at_element, piece, stopped, before⟩ :=
      Walk.bound_before_stop registered.rule.nonempty bound
    have plain : '/' ∉ value.toList := by
      intro slash
      exact slashFree e (List.mem_of_getElem? at_element) (piece.subset slash)
    exact ⟨plain, i, level, p, at_level, known, stopped, before⟩

namespace Sample

def artist : Level := ⟨"${artist}", by decide, by decide, by decide⟩

def track : Level := ⟨"${n} - ${title}", by decide, by decide, by decide⟩

def rule : Rule := ⟨"/${artist}/${n} - ${title}", [artist, track], by decide⟩

def registry : Registry := ⟨Table.ofList [("Artists", ⟨0, rule⟩)]⟩

theorem artists_registered : registry.get? "Artists" = some ⟨0, rule⟩ := by decide

end Sample

theorem resolve_closed_form_pending :
    Sample.registry.get? "Artists" = some ⟨0, Sample.rule⟩ ∧ '/' ∉ "Artists".toList ∧
      (∀ e ∈ ["Air", "0? - *"], '/' ∉ e.toList) ∧
      ∃ w, Sample.registry.resolve (virtualPath "Artists" ["Air", "0? - *"]) = .ok w ∧
        w.rule = Sample.rule ∧ w.position = some 1 ∧ w.pending = some "0? - *" ∧
        w.settled = false ∧ w.fields = ["artist", "n", "title"] ∧
        w.bindings.get? "artist" = some "Air" := by
  refine ⟨by decide, by decide, by decide, ?_⟩
  obtain ⟨w, resolved, rule, position, pending, settled, fields, bindings, _⟩ :=
    resolve_closed_form Sample.artists_registered (by decide) ["Air", "0? - *"] (by decide)
  have token : w.pending = some "0? - *" := (pending _).mpr (by decide)
  refine ⟨w, resolved, rule, position, token, ?_, ?_, ?_⟩
  · rw [← Bool.not_eq_true, settled]
    decide
  · rw [fields, token]
    decide
  · rw [bindings, token]
    decide

end MediaPaths
