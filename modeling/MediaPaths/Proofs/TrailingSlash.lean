import MediaPaths.Backend
import MediaPaths.Proofs.Listing
import MediaPaths.Proofs.Position

/-!
A slash behind a chosen value. Where a path ends in concrete text, its children are listed; a slash
behind it leaves the next element open, which lists the same level. The two ways lead to one level
at every depth, also at the last level and beyond it, where neither can go on.
-/
namespace MediaPaths

namespace Walk

theorem given_open (levels : List Level) : given levels [""] = [] := by
  cases levels <;> simp [given, Level.gives]

theorem elements_append_slash (path : String) :
    elements (path ++ "/") = elements path ++ [""] := by
  have split := elements_append path ""
  rw [String.append_empty] at split
  exact split

theorem walk_append_slash (rule : Rule) {path : String} (chosen : Chosen (elements path)) :
    rule.walk (path ++ "/") = { rule.walk path with
      position := some (min (elements path).length rule.lastIndex), settled := false } := by
  have ends := elements_append_slash path
  have position := position_concat rule ends
  have open_none : openToken rule.levels.length (elements path ++ [""]) = none :=
    openToken_concat (by decide) _ _
  have unsettled : Walk.choosesLast rule.levels.length (elements path ++ [""]) = false := by
    simp [Walk.choosesLast]
  rw [rule.walk_eq, ends] at position ⊢
  rw [rule.walk_eq]
  simp only [mk.injEq, true_and]
  refine ⟨?_, ?_, position, ?_, unsettled⟩
  · simp [contributions, matched, open_none, chosen.openToken, given_append, given_open]
  · simp [visited, open_none, chosen.openToken]
  · rw [open_none, chosen.openToken]

theorem target_append_slash (rule : Rule) (path : String) : (rule.walk (path ++ "/")).target =
    rule.levelAt (elements path).length :=
  target_concat rule (elements_append_slash path)

end Walk

/-- A backend is asked the same, in the same order, and what comes of it is the same. -/
theorem trailing_slash_browses_same {reg : Registry} {path : String} {address : Address}
    {registered : Registered} (read : Address.read? path = some address)
    (found : reg.get? address.action = some registered)
    (chosen : Walk.Chosen (elements address.remainder)) :
    ∃ w v, reg.resolve path = .ok w ∧ reg.resolve (path ++ "/") = .ok v ∧
      v.bindings = w.bindings ∧ v.fields = w.fields ∧ w.pending = none ∧ v.pending = none ∧
      v.browseLevel = w.browseLevel ∧
      (∀ (m : Type → Type) [Monad m] (b : Backend m),
        b.list v = b.list w ∧ b.selection v = b.selection w ∧ b.candidates v = b.list w) ∧
      ∀ lib : Library, lib.list v = lib.list w ∧ lib.selection v = lib.selection w ∧
        lib.candidates v = lib.list w := by
  have resolved : reg.resolve path = .ok (registered.rule.walk address.remainder) :=
    Registry.resolve_eq_ok_iff.mpr ⟨address, registered, read, found, rfl⟩
  have resolved' := Registry.resolve_append read found ""
  rw [String.append_empty, String.append_empty] at resolved'
  refine ⟨_, _, resolved, resolved', ?_⟩
  have moved := Walk.walk_append_slash registered.rule chosen
  have listed := Walk.browseLevel_of_chosen registered.rule chosen
  have target := Walk.target_append_slash registered.rule address.remainder
  have pending : (registered.rule.walk address.remainder).pending = none := by
    rw [Rule.walk_eq]
    exact chosen.openToken _
  -- A backend sees the parts of a walk and not its path.
  generalize registered.rule.walk address.remainder = w at moved listed pending ⊢
  generalize registered.rule.walk (address.remainder ++ "/") = v at moved target ⊢
  have bindings : v.bindings = w.bindings := by rw [moved]
  have fields : v.fields = w.fields := by rw [moved]
  have pending' : v.pending = none := by rw [moved, pending]
  have unsettled : v.settled = false := by rw [moved]
  have level : v.target = w.browseLevel := target.trans listed.symm
  have level' : v.browseLevel = w.browseLevel := (Walk.browseLevel_of_open unsettled).trans level
  have every : ∀ (m : Type → Type) [Monad m] (b : Backend m),
      b.list v = b.list w ∧ b.selection v = b.selection w ∧ b.candidates v = b.list w := by
    intro m _ b
    have lines := b.lines_congr w.browseLevel bindings fields (pending'.trans pending.symm)
    refine ⟨?_, b.selection_congr bindings, ?_⟩
    · rw [Backend.list, level', lines, Backend.list]
    · rw [Backend.candidates, level, lines, Backend.list]
  refine ⟨bindings, fields, pending, pending', level', every, ?_⟩
  intro lib
  obtain ⟨list, selection, candidates⟩ := every Id lib.backend
  rw [← lib.list_backend, list, lib.list_backend, ← lib.selection_backend, selection,
    lib.selection_backend, ← lib.candidates_backend, candidates, lib.list_backend]
  exact ⟨rfl, rfl, rfl⟩

theorem trailing_slash_browses_same_air :
    Address.read? "//Artists/Air" = some ⟨"Artists", "/Air"⟩ ∧
      Sample.registry.get? "Artists" = some ⟨0, Sample.rule⟩ ∧
      Walk.Chosen (elements "/Air") ∧
      ∃ w v, Sample.registry.resolve "//Artists/Air" = .ok w ∧
        Sample.registry.resolve "//Artists/Air/" = .ok v ∧ w.position = some 0 ∧
        v.position = some 1 ∧ v.browseLevel = w.browseLevel ∧
        Sample.library.list w = .ok ["01 - Venus", "02 - "] ∧
        Sample.library.list v = .ok ["01 - Venus", "02 - "] ∧
        Sample.library.candidates w = .ok ["Air"] ∧
        Sample.library.candidates v = .ok ["01 - Venus", "02 - "] := by
  have read : Address.read? "//Artists/Air" = some ⟨"Artists", "/Air"⟩ := by rfl
  have chosen : Walk.Chosen (elements "/Air") := by
    intro e last
    obtain rfl : "Air" = e := Option.some.inj last
    decide
  refine ⟨read, Sample.artists_registered, chosen, ?_⟩
  obtain ⟨w, v, resolved, resolved', _, _, _, _, level, _, every⟩ :=
    trailing_slash_browses_same read Sample.artists_registered chosen
  obtain rfl : Sample.rule.walk "/Air" = w := Except.ok.inj resolved
  obtain rfl : Sample.rule.walk "/Air/" = v := Except.ok.inj resolved'
  obtain ⟨list, _, candidates⟩ := every Sample.library
  have listed : Sample.library.list (Sample.rule.walk "/Air") = .ok ["01 - Venus", "02 - "] := by
    rfl
  exact ⟨_, _, resolved, resolved', rfl, rfl, level, listed, list.trans listed, rfl,
    candidates.trans listed⟩

end MediaPaths
