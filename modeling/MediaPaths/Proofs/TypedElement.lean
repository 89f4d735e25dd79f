import MediaPaths.Proofs.DrillDown

/-!
The element being typed. A wildcard at the end of a path is not bound: it narrows the listing of its
level, however the library was asked for it. Concrete text is bound at once, so it is completed only
by lines of entries that have just the typed values.
-/
namespace MediaPaths

theorem filter_eraseDups (test : String → Bool) (lines : List String) :
    lines.eraseDups.filter test = (lines.filter test).eraseDups := by
  rw [← distinct_eq_eraseDups, ← distinct_eq_eraseDups, filter_distinct]

theorem Library.plainLines_some (lib : Library) (filter : Filter) (glob : Glob) (level : Level) :
    lib.plainLines filter (some glob) level =
      (lib.plainLines filter none level).filter glob.accepts := by
  rw [plainLines_none, filter_eraseDups]
  rfl

section Levels

variable {reg : Registry} {action : String} {registered : Registered} {es : List String}
  {level : Level}

theorem resolve_open (found : reg.get? action = some registered) (noSlash : '/' ∉ action.toList)
    (slashFree : ∀ e ∈ es, '/' ∉ e.toList)
    (here : registered.rule.levels[es.length]? = some level) :
    reg.resolve (virtualPath action es ++ "/") =
      .ok ⟨registered.rule, Table.ofList (Walk.given registered.rule.levels es),
        registered.rule.levels.flatMap Level.names, some es.length, none, false⟩ := by
  have opened := resolve_concat found noSlash slashFree here (e := "") (by simp) (by decide)
  rw [virtualPath_concat_empty, Walk.choosesLast_concat_empty] at opened
  simpa only [Level.gives, ↓reduceIte, Table.insertAll] using opened

theorem resolve_pending (found : reg.get? action = some registered) (noSlash : '/' ∉ action.toList)
    (slashFree : ∀ e ∈ es, '/' ∉ e.toList) (inside : es.length < registered.rule.levels.length)
    {token : String} (slashFree' : '/' ∉ token.toList) (wild : hasWildcard token = true) :
    reg.resolve (virtualPath action es ++ "/" ++ token) =
      .ok ⟨registered.rule, Table.ofList (Walk.given registered.rule.levels es),
        (registered.rule.levels.take (es.length + 1)).flatMap Level.names, some es.length,
        some token, false⟩ := by
  have slashFreeAll : ∀ f ∈ es ++ [token], '/' ∉ f.toList :=
    List.forall_mem_append.mpr ⟨slashFree, List.forall_mem_singleton.mpr slashFree'⟩
  have within : (es ++ [token]).length ≤ registered.rule.levels.length := by
    rw [List.length_append, List.length_singleton]
    omega
  have pending : Walk.openToken registered.rule.levels.length (es ++ [token]) = some token := by
    rw [Walk.openToken, if_pos within, List.getLast?_concat]
    simp [Option.filter, wild]
  have unsettled : Walk.choosesLast registered.rule.levels.length (es ++ [token]) = false := by
    simp [Walk.choosesLast, wild]
  rw [← virtualPath_concat, resolve_virtualPath found noSlash, registered.rule.walk_eq]
  simp only [elements_join _ slashFreeAll, Walk.contributions, Walk.matched, Walk.visited, pending,
    unsettled, Walk.stop_concat inside, Option.isSome_some, ↓reduceIte, List.dropLast_concat,
    List.length_append, List.length_singleton]

end Levels

/-- The lines offered for typed text are those of the entries with just the typed values. Other names
are still held to what the path asks of them, the names typed anew are not. -/
theorem candidates_have_typed_values {reg : Registry} {action : String} {registered : Registered}
    (found : reg.get? action = some registered) (noSlash : '/' ∉ action.toList)
    (es : List String) (slashFree : ∀ e ∈ es, '/' ∉ e.toList) {level : Level}
    (here : registered.rule.levels[es.length]? = some level) {typed : String}
    (slashFree' : '/' ∉ typed.toList) (noStar : '*' ∉ typed.toList)
    (noQuestion : '?' ∉ typed.toList) (lib : Library) {before : Walk} {filter : Filter}
    (opened : reg.resolve (virtualPath action es ++ "/") = .ok before)
    (filtered : before.filter = .ok filter) :
    let values := Table.ofList (level.gives typed)
    ∃ w lines, reg.resolve (virtualPath action es ++ "/" ++ typed) = .ok w ∧
      lib.candidates w = .ok lines ∧
      (∀ x ∈ lib.accepted filter, values.Within x.fields → level.render x.fields ∈ lines) ∧
      ∀ line, line ∈ lines ↔ ∃ x ∈ lib.entries, level.render x.fields = line ∧
        values.Within x.fields ∧ ∀ name value, before.bindings.get? name = some value →
          values.get? name = none → Filter.Demands name value x.fields := by
  intro values
  have plain : hasWildcard typed = false := (no_wildcard_iff typed).mpr ⟨noStar, noQuestion⟩
  obtain rfl := Except.ok.inj ((resolve_open found noSlash slashFree here).symm.trans opened)
  obtain ⟨narrow, narrowed, meaning⟩ :=
    Filter.ofRow_insertAll_plain filtered (Level.gives_plain plain)
  have resolved := resolve_concat found noSlash slashFree here slashFree' plain
  rw [virtualPath_concat] at resolved
  refine ⟨_, lib.plainLines narrow none level, resolved,
    lib.candidates_at rfl here narrowed rfl (Walk.names_among here), ?_, ?_⟩
  · intro x member within
    obtain ⟨inside, accepted⟩ := List.mem_filter.mp member
    have demands := (Filter.accepts_ofRow filtered x.fields).mp accepted
    have still : narrow.accepts x.fields = true :=
      (meaning x.fields).mpr ⟨within, fun name value bound _ => demands name value bound⟩
    exact mem_plainLines.mpr ⟨x, List.mem_filter.mpr ⟨inside, still⟩, rfl⟩
  · intro line
    rw [mem_plainLines]
    simp only [Library.accepted, List.mem_filter, meaning]
    constructor
    · intro offered
      obtain ⟨x, ⟨inside, holds⟩, shown⟩ := offered
      exact ⟨x, inside, shown, holds⟩
    · intro entry
      obtain ⟨x, inside, shown, holds⟩ := entry
      exact ⟨x, ⟨inside, holds⟩, shown⟩

namespace Sample

def venus : Row := Table.ofList [("artist", "Air"), ("n", "01"), ("title", "Venus")]

end Sample

theorem candidates_have_typed_values_number :
    Sample.registry.get? "Artists" = some ⟨0, Sample.rule⟩ ∧ '/' ∉ "Artists".toList ∧
      (∀ e ∈ ["Air"], '/' ∉ e.toList) ∧ Sample.rule.levels[1]? = some Sample.track ∧
      ('/' ∉ "01".toList ∧ '*' ∉ "01".toList ∧ '?' ∉ "01".toList) ∧
      ∃ before w lines,
        Sample.registry.resolve (virtualPath "Artists" ["Air"] ++ "/") = .ok before ∧
        before.filter = .ok (.equals "artist" "Air") ∧
        Sample.registry.resolve (virtualPath "Artists" ["Air"] ++ "/" ++ "01") = .ok w ∧
        Sample.shelf.candidates w = .ok lines ∧ "01 - Venus" ∈ lines := by
  have slashFree : ∀ e ∈ ["Air"], '/' ∉ e.toList := by decide
  have here : Sample.rule.levels[["Air"].length]? = some Sample.track := by decide
  have plain : '/' ∉ "01".toList ∧ '*' ∉ "01".toList ∧ '?' ∉ "01".toList := by decide
  have opened := resolve_open Sample.artists_registered (by decide) slashFree here
  have filtered : Filter.ofRow (Table.ofList (Walk.given Sample.rule.levels ["Air"])) =
      .ok (.equals "artist" "Air") := by rfl
  obtain ⟨w, lines, resolved, offered, complete, _⟩ :=
    candidates_have_typed_values Sample.artists_registered (by decide) ["Air"] slashFree here
      plain.1 plain.2.1 plain.2.2 Sample.shelf opened filtered
  have accepted : ⟨1, Sample.venus⟩ ∈ Sample.shelf.accepted (.equals "artist" "Air") := by decide
  have typed : (Table.ofList (Sample.track.gives "01")).Within Sample.venus :=
    (Table.forall_entries_iff _ fun name value => Sample.venus.get? name = some value).mp
      (by decide)
  have shown : Sample.track.render Sample.venus = "01 - Venus" := by decide
  have member := complete _ accepted typed
  rw [shown] at member
  exact ⟨Sample.artists_registered, by decide, slashFree, here, plain, _, w, lines, opened,
    filtered, resolved, offered, member⟩

theorem candidates_miss_beginning :
    (Sample.registry.resolve (virtualPath "Artists" [] ++ "/")).bind Walk.filter =
        .ok .everything ∧
      (∃ x ∈ Sample.shelf.accepted .everything,
        (∀ name ∈ Sample.artist.names, (x.fields.get? name).isSome = true) ∧
        Sample.artist.render x.fields = "Air" ∧ "Ai".toList <+: "Air".toList) ∧
      ¬ ∃ lines, (Sample.registry.resolve (virtualPath "Artists" ["Ai"])).bind
        Sample.shelf.candidates = .ok lines ∧ "Air" ∈ lines := by
  refine ⟨by rfl, ⟨_, List.mem_cons_self, by decide, by decide, by decide⟩, ?_⟩
  intro offered
  obtain ⟨lines, listed, member⟩ := offered
  have nothing : (Sample.registry.resolve (virtualPath "Artists" ["Ai"])).bind
      Sample.shelf.candidates = .ok [] := by rfl
  obtain rfl := Except.ok.inj (nothing.symm.trans listed)
  exact List.not_mem_nil member

theorem wildcard_narrows_listing {reg : Registry} {action : String} {registered : Registered}
    (found : reg.get? action = some registered) (noSlash : '/' ∉ action.toList)
    (es : List String) (slashFree : ∀ e ∈ es, '/' ∉ e.toList)
    (inside : es.length < registered.rule.levels.length) {token : String}
    (slashFree' : '/' ∉ token.toList) (wild : '*' ∈ token.toList ∨ '?' ∈ token.toList)
    {glob : Glob} (compiled : Glob.compile token = .ok glob) (lib : Library) {filter : Filter}
    (filtered : (reg.resolve (virtualPath action es ++ "/")).bind Walk.filter = .ok filter) :
    let levels := registered.rule.levels
    ∃ w v lines, reg.resolve (virtualPath action es ++ "/" ++ token) = .ok w ∧
      reg.resolve (virtualPath action es ++ "/") = .ok v ∧ w.filter = v.filter ∧
      w.fields = (levels.take (es.length + 1)).flatMap Level.names ∧
      v.fields = levels.flatMap Level.names ∧ lib.list v = .ok lines ∧
      lib.list w = .ok (lines.filter glob.accepts) ∧
      lib.candidates w = .ok (lines.filter glob.accepts) := by
  intro levels
  have here : levels[es.length]? = some levels[es.length] := List.getElem?_eq_getElem inside
  have opened := resolve_open found noSlash slashFree here
  have pending := resolve_pending found noSlash slashFree inside slashFree'
    ((hasWildcard_iff token).mpr wild)
  rw [opened] at filtered
  refine ⟨_, _, lib.plainLines filter none levels[es.length], pending, opened, rfl, rfl, rfl,
    list_open lib here filtered, ?_⟩
  have test : (some token).mapM Glob.compile = .ok (some glob) := by
    rw [Walk.mapM_compile_some, compiled, Except.map]
  have met : (levels.take (es.length + 1))[es.length]? = some levels[es.length] := by
    rw [List.getElem?_take_of_lt (Nat.lt_succ_self _), here]
  have covered := Walk.names_among met
  rw [← lib.plainLines_some]
  exact ⟨lib.list_at rfl here rfl filtered test covered,
    lib.candidates_at rfl here filtered test covered⟩

theorem wildcard_narrows_listing_zeroes :
    Sample.registry.get? "Artists" = some ⟨0, Sample.rule⟩ ∧ '/' ∉ "Artists".toList ∧
      (∀ e ∈ [""], '/' ∉ e.toList) ∧ [""].length < Sample.rule.levels.length ∧
      '/' ∉ "0*".toList ∧ '*' ∈ "0*".toList ∧ Glob.compile "0*" = .ok Sample.zeroes ∧
      (Sample.registry.resolve (virtualPath "Artists" [""] ++ "/")).bind Walk.filter =
        .ok .everything ∧
      ∃ w v, Sample.registry.resolve (virtualPath "Artists" [""] ++ "/" ++ "0*") = .ok w ∧
        Sample.registry.resolve (virtualPath "Artists" [""] ++ "/") = .ok v ∧
        Sample.library.list v = .ok ["01 - Venus", "02 - ", "11 - Run"] ∧
        Sample.library.list w = .ok ["01 - Venus", "02 - "] ∧
        Sample.library.candidates w = .ok ["01 - Venus", "02 - "] := by
  have slashFree : ∀ e ∈ [""], '/' ∉ e.toList := by decide
  have inside : [""].length < Sample.rule.levels.length := by decide
  have compiled : Glob.compile "0*" = .ok Sample.zeroes := by rfl
  have filtered : (Sample.registry.resolve (virtualPath "Artists" [""] ++ "/")).bind
      Walk.filter = .ok .everything := by rfl
  obtain ⟨w, v, lines, pending, opened, _, _, _, whole, narrowed, offered⟩ :=
    wildcard_narrows_listing Sample.artists_registered (by decide) [""] slashFree inside
      (by decide) (Or.inl (by decide)) compiled Sample.library filtered
  have listed : (Sample.registry.resolve (virtualPath "Artists" [""] ++ "/")).bind
      Sample.library.list = .ok ["01 - Venus", "02 - ", "11 - Run"] := by rfl
  rw [opened] at listed
  obtain rfl := Except.ok.inj (whole.symm.trans listed)
  have kept : ["01 - Venus", "02 - ", "11 - Run"].filter Sample.zeroes.accepts =
      ["01 - Venus", "02 - "] := by decide
  rw [kept] at narrowed offered
  exact ⟨Sample.artists_registered, by decide, slashFree, inside, by decide, by decide, compiled,
    filtered, w, v, pending, opened, listed, narrowed, offered⟩

namespace Sample

def shallow : Registry :=
  ⟨Table.ofList [("Artists", ⟨0, ⟨"/${artist}", [artist], by decide⟩⟩),
    ("Artists/Air", ⟨1, ⟨"/${n} - ${title}", [track], by decide⟩⟩)]⟩

end Sample

/-- The path of an action with a slash in its name is taken for a path of the shorter action, where
the wildcard lies beyond the last level and narrows nothing. -/
theorem wildcard_narrows_listing_fails_shallow :
    (Registry.empty.add "Artists" "/${artist}").bind (·.add "Artists/Air" "/${n} - ${title}") =
        .ok Sample.shallow ∧
      (∃ registered, Sample.shallow.get? "Artists/Air" = some registered ∧
        0 < registered.rule.levels.length) ∧
      '/' ∉ "0*".toList ∧ '*' ∈ "0*".toList ∧ Glob.compile "0*" = .ok Sample.zeroes ∧
      (Sample.shallow.resolve (virtualPath "Artists/Air" [] ++ "/")).bind Walk.filter =
        .ok (.equals "artist" "Air") ∧
      ¬ ∃ lines, (Sample.shallow.resolve (virtualPath "Artists/Air" [] ++ "/")).bind
          Sample.shelf.list = .ok lines ∧
        (Sample.shallow.resolve (virtualPath "Artists/Air" [] ++ "/" ++ "0*")).bind
          Sample.shelf.list = .ok (lines.filter Sample.zeroes.accepts) := by
  refine ⟨by rfl, ⟨_, rfl, by decide⟩, by decide, by decide, by rfl, by rfl, ?_⟩
  intro narrowed
  obtain ⟨lines, whole, kept⟩ := narrowed
  have listed : (Sample.shallow.resolve (virtualPath "Artists/Air" [] ++ "/")).bind
      Sample.shelf.list = .ok ["Air"] := by rfl
  obtain rfl := Except.ok.inj (listed.symm.trans whole)
  have unchanged : (Sample.shallow.resolve (virtualPath "Artists/Air" [] ++ "/" ++ "0*")).bind
      Sample.shelf.list = .ok ["Air"] := by rfl
  exact absurd (Except.ok.inj (unchanged.symm.trans kept)) (by decide)

end MediaPaths
