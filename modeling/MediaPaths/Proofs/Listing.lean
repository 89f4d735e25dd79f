import MediaPaths.Browse
import MediaPaths.Proofs.Collapse
import MediaPaths.Proofs.Position

/-!
A listing through grouped, projected rows is the plain one: every accepted entry rendered from all
its fields, each line once. It rests on the names that a walk meets, which include those of every
level that it may be asked to list, wherever it stops.
-/
namespace MediaPaths

namespace Walk

theorem openToken_of_choosesLast {depth : Nat} {es : List String}
    (chosen : choosesLast depth es = true) : openToken depth es = none := by
  obtain ⟨_, _, last, at_end, _, noStar, noQuestion⟩ := (choosesLast_iff depth es).mp chosen
  rw [Option.eq_none_iff_forall_ne_some]
  intro token pending
  obtain ⟨_, _, same, wild⟩ := (openToken_eq_some_iff depth es token).mp pending
  obtain rfl := Option.some.inj (at_end.symm.trans same)
  exact wild.elim noStar noQuestion

theorem next_mem (w : Walk) : w.next ∈ w.rule.levels := by
  unfold next
  split <;> exact List.getElem_mem _

theorem target_mem_visited (rule : Rule) (path : String) :
    (rule.walk path).target ∈ visited rule.levels (elements path) := by
  have next_known := next_mem (rule.walk path)
  rw [rule.walk_eq path] at next_known ⊢
  unfold target current
  dsimp only
  cases stopped : stop rule.levels.length (elements path) with
  | none =>
    have none_given := elements_of_stop_none rule.length_pos stopped
    simpa [stopped, none_given, visited] using next_known
  | some i =>
    have place := index_of_stop_some stopped
    have inside : i < rule.levels.length := by omega
    have here : rule.levels[i]? = some rule.levels[i] := List.getElem?_eq_getElem inside
    simp only [Option.bind_some, Rule.level?, here, Option.getD_some, visited]
    split
    · exact List.mem_take_iff_getElem.mpr ⟨i, by omega, rfl⟩
    · exact List.getElem_mem _

theorem browseLevel_mem_visited (rule : Rule) (path : String) :
    (rule.walk path).browseLevel ∈ visited rule.levels (elements path) := by
  unfold browseLevel
  split
  · rename_i chosen
    have settled : choosesLast rule.levels.length (elements path) = true := by
      rw [rule.walk_eq path] at chosen
      exact (Bool.and_eq_true_iff.mp chosen).1
    rw [visited, openToken_of_choosesLast settled]
    simpa [rule.walk_eq path] using next_mem (rule.walk path)
  · exact target_mem_visited rule path

theorem names_met {rule : Rule} {path : String} {level : Level}
    (met : level ∈ visited rule.levels (elements path)) :
    ∀ name ∈ level.names, name ∈ (rule.walk path).fields := by
  intro name member
  rw [rule.walk_eq path]
  exact List.mem_flatMap.mpr ⟨level, met, member⟩

theorem names_among {levels : List Level} {i : Nat} {level : Level}
    (here : levels[i]? = some level) : ∀ name ∈ level.names, name ∈ levels.flatMap Level.names := by
  intro name member
  exact List.mem_flatMap.mpr ⟨level, List.mem_of_getElem? here, member⟩

theorem mapM_compile_some (token : String) :
    (some token).mapM Glob.compile = (Glob.compile token).map some := by
  rw [Option.mapM_some]
  rfl

theorem lineTest_eq {w : Walk} {glob : Option Glob}
    (compiled : w.pending.mapM Glob.compile = .ok glob) :
    ∃ test, w.lineTest = .ok test ∧ ∀ line, test line = glob.all (·.accepts line) := by
  unfold lineTest
  cases pending : w.pending with
  | none =>
    rw [pending] at compiled
    obtain rfl := Except.ok.inj compiled
    exact ⟨_, rfl, fun _ => rfl⟩
  | some token =>
    rw [pending] at compiled
    cases built : Glob.compile token with
    | error fault => simp [built] at compiled
    | ok g =>
      simp only [mapM_compile_some, built, Except.map, Except.ok.injEq] at compiled
      obtain rfl := compiled
      exact ⟨g.accepts, by simp only [built], fun _ => rfl⟩

end Walk

namespace Library

/-- The lines of a level in the order of the entries: the accepted entries, rendered whole, the
lines that a wildcard accepts, each one once. -/
def plainLines (lib : Library) (filter : Filter) (glob : Option Glob) (level : Level) :
    List String :=
  (((lib.entries.filter fun e => filter.accepts e.fields).map
    fun e => level.render e.fields).filter fun line => glob.all (·.accepts line)).eraseDups

/-- Entries with equal values of all the fields met have equal lines at a level met. -/
theorem render_eq_of_group_eq {level : Level} {fields : List String}
    (covered : ∀ name ∈ level.names, name ∈ fields) {e e' : Entry}
    (same : fields.map e.fields.get? = fields.map e'.fields.get?) :
    level.render e.fields = level.render e'.fields :=
  Level.render_congr fun name member => List.map_inj_left.mp same name (covered name member)

theorem render_project (level : Level) (row : Row) :
    level.render (row.project level.names) = level.render row := by
  apply Level.render_congr
  intro name member
  rw [Table.get?_project, if_pos member]

theorem lines_eq_plainLines (lib : Library) {w : Walk} {level : Level} {filter : Filter}
    {glob : Option Glob} (filtered : w.filter = .ok filter)
    (compiled : w.pending.mapM Glob.compile = .ok glob)
    (covered : ∀ name ∈ level.names, name ∈ w.fields) :
    lib.lines w level = .ok (lib.plainLines filter glob level) := by
  obtain ⟨test, tested, meaning⟩ := Walk.lineTest_eq compiled
  have shown : (lib.rows ⟨filter, level.names, w.fields⟩).map level.render =
      (distinctBy (fun e => w.fields.map e.fields.get?) (lib.accepted filter)).map
        fun e => level.render e.fields := by
    rw [rows, List.map_map]
    exact List.map_congr_left fun e _ => render_project level e.fields
  simp only [lines, Walk.query, filtered, tested, shown]
  rw [distinct_filter_map_distinctBy _ _ _ fun _ _ => render_eq_of_group_eq covered,
    distinct_eq_eraseDups, funext meaning]
  rfl

section Stopped

variable (lib : Library) {w : Walk} {i : Nat} {level : Level} {filter : Filter}
  {glob : Option Glob}

theorem candidates_at (stopped : w.position = some i) (here : w.rule.levels[i]? = some level)
    (filtered : w.filter = .ok filter) (compiled : w.pending.mapM Glob.compile = .ok glob)
    (covered : ∀ name ∈ level.names, name ∈ w.fields) :
    lib.candidates w = .ok (lib.plainLines filter glob level) := by
  rw [candidates, Walk.target_of_position stopped here]
  exact lib.lines_eq_plainLines filtered compiled covered

theorem list_at (stopped : w.position = some i) (here : w.rule.levels[i]? = some level)
    (unsettled : w.settled = false) (filtered : w.filter = .ok filter)
    (compiled : w.pending.mapM Glob.compile = .ok glob)
    (covered : ∀ name ∈ level.names, name ∈ w.fields) :
    lib.list w = .ok (lib.plainLines filter glob level) := by
  rw [list, Walk.browseLevel_of_open unsettled]
  exact lib.candidates_at stopped here filtered compiled covered

end Stopped

theorem plainLines_none (lib : Library) (filter : Filter) (level : Level) :
    lib.plainLines filter none level =
      ((lib.accepted filter).map fun e => level.render e.fields).eraseDups := by
  have all (lines : List String) : lines.filter (fun line => (none : Option Glob).all
      (·.accepts line)) = lines := List.filter_eq_self.mpr fun _ _ => rfl
  rw [plainLines, accepted, all]

theorem plainLines_eq_nil_iff (lib : Library) (filter : Filter) (level : Level) :
    lib.plainLines filter none level = [] ↔ lib.accepted filter = [] := by
  rw [plainLines_none]
  cases lib.accepted filter with
  | nil => simp
  | cons e rest => simp [List.eraseDups_cons]

end Library

theorem listing_is_plain (rule : Rule) (path : String) (lib : Library) {filter : Filter}
    {glob : Option Glob} (filtered : (rule.walk path).filter = .ok filter)
    (compiled : (rule.walk path).pending.mapM Glob.compile = .ok glob) :
    let w := rule.walk path
    lib.list w = .ok (lib.plainLines filter glob w.browseLevel) ∧
      lib.candidates w = .ok (lib.plainLines filter glob w.target) ∧
      (w.pending = none →
        (lib.list w = .ok [] ↔ lib.selection w = .ok []) ∧
        (lib.candidates w = .ok [] ↔ lib.selection w = .ok [])) := by
  intro w
  have list := lib.lines_eq_plainLines filtered compiled
    (Walk.names_met (Walk.browseLevel_mem_visited rule path))
  have candidates := lib.lines_eq_plainLines filtered compiled
    (Walk.names_met (Walk.target_mem_visited rule path))
  refine ⟨list, candidates, ?_⟩
  intro nothing
  have all : glob = none := by
    simp only [w] at nothing
    rw [nothing] at compiled
    exact (Except.ok.inj compiled).symm
  have chosen : lib.selection w = .ok [] ↔ lib.accepted filter = [] := by
    simp [Library.selection, w, filtered, Library.ids]
  rw [Library.list, list, Library.candidates, candidates, all, chosen]
  simp [Library.plainLines_eq_nil_iff]

namespace Sample

def library : Library :=
  ⟨[⟨1, Table.ofList [("artist", "Air"), ("n", "01"), ("title", "Venus")]⟩,
    ⟨2, Table.ofList [("artist", "Moby"), ("n", "01"), ("title", "Venus")]⟩,
    ⟨3, Table.ofList [("artist", "Air"), ("n", "02")]⟩,
    ⟨4, Table.ofList [("n", "11"), ("title", "Run")]⟩]⟩

def zeroes : Glob := ⟨"0*", [['0'], []], by decide, by decide⟩

end Sample

theorem listing_is_plain_pending :
    (Sample.rule.walk "//0*").filter = .ok .everything ∧
      (Sample.rule.walk "//0*").pending.mapM Glob.compile = .ok (some Sample.zeroes) ∧
      Sample.library.list (Sample.rule.walk "//0*") = .ok ["01 - Venus", "02 - "] := by
  have filtered : (Sample.rule.walk "//0*").filter = .ok .everything := by rfl
  have compiled : (Sample.rule.walk "//0*").pending.mapM Glob.compile =
      .ok (some Sample.zeroes) := by rfl
  refine ⟨filtered, compiled, ?_⟩
  rw [(listing_is_plain Sample.rule "//0*" Sample.library filtered compiled).1]
  exact congrArg Except.ok (by decide)

end MediaPaths
