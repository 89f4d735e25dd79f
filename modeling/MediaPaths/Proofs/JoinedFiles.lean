import MediaPaths.RuleFile

/-!
Rule files put together. A text that is empty or ends its last line has the lines of a text behind it
after its own (`Text.lines_append`), so the two are loaded one after the other: the second starts from
the registry that the first left, and its lines are counted on (`Registry.loadLines_append`,
`Registry.loadLines_later`).
-/
namespace MediaPaths

namespace Text

variable {first : String}

theorem lines_append (ended : first = "" ∨ ∃ body, first = body ++ "\n") (second : String) :
    lines (first ++ second) = lines first ++ lines second := by
  rcases ended with rfl | ⟨body, rfl⟩
  · rw [String.empty_append]
    rfl
  · have newline : "\n".toList = ['\n'] := rfl
    have apart := linesFrom_append body.toList second.toList []
    rw [lines, lines, lines, String.toList_append, String.toList_append, newline, List.append_assoc,
      List.singleton_append, apart, List.map_append]

theorem length_linesFrom_ended (body line : List Char) :
    (linesFrom line (body ++ ['\n'])).length = (body ++ ['\n']).count '\n' := by
  induction body generalizing line with
  | nil => rfl
  | cons c body ih =>
    rw [List.cons_append, linesFrom, List.count_cons]
    by_cases newline : c = '\n'
    · simp [newline, ih]
    · simp [newline, ih]

theorem length_lines_of_ended (ended : first = "" ∨ ∃ body, first = body ++ "\n") :
    (lines first).length = first.toList.count '\n' := by
  rcases ended with rfl | ⟨body, rfl⟩
  · rfl
  · have newline : "\n".toList = ['\n'] := rfl
    rw [lines, List.length_map, String.toList_append, newline]
    exact length_linesFrom_ended body.toList []

end Text

def Event.later (lines : Nat) : Event → Event
  | .ignoredLine n text => .ignoredLine (n + lines) text
  | .skippedRule n fault => .skippedRule (n + lines) fault
  | event => event

namespace Loading

/-- One loading after another, which started from the registry that the first one left. -/
def followedBy (front back : Loading) : Loading :=
  ⟨back.registry, front.loaded + back.loaded, front.skipped ++ back.skipped,
    front.events ++ back.events⟩

/-- The same loading of lines that stand further down. -/
def later (lines : Nat) (l : Loading) : Loading :=
  { l with
    skipped := l.skipped.map fun p => (p.1 + lines, p.2)
    events := l.events.map (Event.later lines) }

section FollowedBy

variable (front back : Loading)

theorem done_followedBy (reg : Registry) : (done reg).followedBy back = back := by
  simp [done, followedBy]

theorem note_followedBy (events : List Event) :
    (front.note events).followedBy back = (front.followedBy back).note events := by
  simp [note, followedBy]

theorem count_followedBy : front.count.followedBy back = (front.followedBy back).count := by
  simp only [count, followedBy, Nat.add_right_comm]

theorem skip_followedBy (n : Nat) (fault : Fault) :
    (front.skip n fault).followedBy back = (front.followedBy back).skip n fault := rfl

end FollowedBy

section Later

variable (lines : Nat) (l : Loading)

theorem later_note (events : List Event) :
    (l.note events).later lines = (l.later lines).note (events.map (Event.later lines)) := by
  simp [note, later]

theorem later_count : l.count.later lines = (l.later lines).count := rfl

theorem later_skip (n : Nat) (fault : Fault) :
    (l.skip n fault).later lines = (l.later lines).skip (n + lines) fault := rfl

end Later

end Loading

namespace Registry

theorem addEvents_later (reg : Registry) (name spec : String) (lines : Nat) :
    (reg.addEvents name spec).map (Event.later lines) = reg.addEvents name spec := by
  unfold addEvents
  split
  · rfl
  · split
    · rfl
    · split <;> rfl

theorem loadLines_append (reg : Registry) (number : Nat) (front back : List String) :
    let l := reg.loadLines number front
    reg.loadLines number (front ++ back) =
      l.followedBy (l.registry.loadLines (number + front.length) back) := by
  -- A line moves the number on, and a rule that is added changes what the rest is loaded into.
  induction front generalizing reg number with
  | nil => exact (Loading.done_followedBy _ reg).symm
  | cons line rest ih =>
    have further : number + (line :: rest).length = number + 1 + rest.length := by
      rw [List.length_cons]
      omega
    rw [List.cons_append, further]
    cases read : RuleLine.read line with
    | passedOver => simp only [loadLines, read, ih]
    | ignored text => simp only [loadLines, read, ih, Loading.note_followedBy, Loading.registry_note]
    | rule name spec =>
      cases added : reg.add name spec with
      | ok reg' =>
        simp only [loadLines, read, added, ih, Loading.note_followedBy, Loading.count_followedBy,
          Loading.registry_note, Loading.registry_count]
      | error fault =>
        simp only [loadLines, read, added, ih, Loading.note_followedBy, Loading.skip_followedBy,
          Loading.registry_note, Loading.registry_skip]

theorem loadLines_later (reg : Registry) (number further : Nat) (lines : List String) :
    reg.loadLines (number + further) lines = (reg.loadLines number lines).later further := by
  induction lines generalizing reg number with
  | nil => rfl
  | cons line rest ih =>
    have next : number + further + 1 = number + 1 + further := Nat.add_right_comm number further 1
    cases read : RuleLine.read line with
    | passedOver => simp only [loadLines, read, next, ih]
    | ignored text =>
      simp only [loadLines, read, next, ih, Loading.later_note]
      rfl
    | rule name spec =>
      cases added : reg.add name spec with
      | ok reg' =>
        simp only [loadLines, read, added, next, ih, Loading.later_note, Loading.later_count,
          addEvents_later]
      | error fault =>
        simp only [loadLines, read, added, next, ih, Loading.later_note, Loading.later_skip,
          List.map_append, addEvents_later]
        rfl

end Registry

theorem loading_joined_files (reg : Registry) {first : String}
    (ended : first = "" ∨ ∃ body, first = body ++ "\n") (second : String) :
    let whole := reg.load (first ++ second)
    let front := reg.load first
    let back := front.registry.load second
    whole.registry = back.registry ∧
    whole.loaded = front.loaded + back.loaded ∧
    whole.skipped =
      front.skipped ++ back.skipped.map (fun p => (p.1 + (Text.lines first).length, p.2)) ∧
    (Text.lines first).length = first.toList.count '\n' := by
  have joined : reg.loadLines 1 (Text.lines (first ++ second)) =
      (reg.loadLines 1 (Text.lines first)).followedBy
        (((reg.loadLines 1 (Text.lines first)).registry.loadLines 1 (Text.lines second)).later
          (Text.lines first).length) := by
    rw [Text.lines_append ended, reg.loadLines_append, Registry.loadLines_later]
  simp only [Registry.load, joined, Loading.followedBy, Loading.later, true_and]
  exact Text.length_lines_of_ended ended

namespace Sample

def upperFile : String := "# rules\r\nArtists = /${artist}\r\nall = ar\n\n"

def lowerFile : String := "ar = Artists\nno rule\r\nArtists = /${n}"

end Sample

theorem loading_joined_files_aliased :
    let front := Registry.empty.load Sample.upperFile
    (∃ body, Sample.upperFile = body ++ "\n") ∧
    front.loaded = 1 ∧ front.skipped = [(3, .undefinedTarget "all" "ar")] ∧
    (front.registry.load Sample.lowerFile).loaded = 1 ∧
    (front.registry.load Sample.lowerFile).skipped = [(3, .duplicateRule "Artists")] ∧
    (Registry.empty.load (Sample.upperFile ++ Sample.lowerFile)).loaded = 2 ∧
    (Registry.empty.load (Sample.upperFile ++ Sample.lowerFile)).skipped =
      [(3, .undefinedTarget "all" "ar"), (7, .duplicateRule "Artists")] := by
  intro front
  have ended : ∃ body, Sample.upperFile = body ++ "\n" :=
    ⟨"# rules\r\nArtists = /${artist}\r\nall = ar\n", by decide +kernel⟩
  obtain ⟨_, loaded, skipped, _⟩ :=
    loading_joined_files Registry.empty (Or.inr ended) Sample.lowerFile
  have front_loaded : front.loaded = 1 := by decide +kernel
  have front_skipped : front.skipped = [(3, .undefinedTarget "all" "ar")] := by decide +kernel
  have back_loaded : (front.registry.load Sample.lowerFile).loaded = 1 := by decide +kernel
  have back_skipped : (front.registry.load Sample.lowerFile).skipped =
      [(3, .duplicateRule "Artists")] := by decide +kernel
  have four : (Text.lines Sample.upperFile).length = 4 := by decide +kernel
  refine ⟨ended, front_loaded, front_skipped, back_loaded, back_skipped, ?_, ?_⟩
  · change _ = front.loaded + _ at loaded
    rw [loaded, front_loaded, back_loaded]
  · change _ = front.skipped ++ _ at skipped
    rw [skipped, front_skipped, back_skipped, four]
    rfl

end MediaPaths
