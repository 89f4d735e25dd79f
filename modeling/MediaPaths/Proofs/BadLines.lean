import MediaPaths.Proofs.RuleLines

/-!
One bad line never matters. Loading a rule file adds its rule lines one after the other. The lines that
are refused are reported with the fault their own addition gave, and a file in which they are blanked
out loads the same rules with nothing to report.
-/
namespace MediaPaths

namespace Registry

theorem add_fault_recoverable {reg : Registry} {name spec : String} {fault : Fault}
    (failed : reg.add name spec = .error fault) : fault.recoverable = true := by
  unfold add at failed
  split at failed
  · obtain rfl := Except.error.inj failed
    rfl
  · split at failed
    · cases compiled : Rule.compile spec with
      | ok rule => simp [compiled] at failed
      | error cause =>
        simp only [compiled, Except.error.injEq] at failed
        exact failed ▸ rfl
    · cases found : reg.get? spec with
      | some target => simp [found] at failed
      | none =>
        simp only [found, Except.error.injEq] at failed
        exact failed ▸ rfl

def refused (reg : Registry) : List (Nat × String × String) → List (Nat × Fault)
  | [] => []
  | (n, name, spec) :: rest =>
    match reg.add name spec with
    | .ok reg' => reg'.refused rest
    | .error fault => (n, fault) :: reg.refused rest

section Steps

variable {reg reg' : Registry} {name spec : String} {fault : Fault}

theorem attemptAll_of_ok (added : reg.add name spec = .ok reg') (rest : List (String × String)) :
    reg.attemptAll ((name, spec) :: rest) = reg'.attemptAll rest := by
  rw [attemptAll, attempt, added]

theorem attemptAll_of_error (failed : reg.add name spec = .error fault)
    (rest : List (String × String)) :
    reg.attemptAll ((name, spec) :: rest) = reg.attemptAll rest := by
  rw [attemptAll, attempt, failed]

theorem granted_of_ok (added : reg.add name spec = .ok reg') (rest : List (String × String)) :
    reg.granted ((name, spec) :: rest) = (name, spec) :: reg'.granted rest := by
  rw [granted, added]

theorem granted_of_error (failed : reg.add name spec = .error fault)
    (rest : List (String × String)) : reg.granted ((name, spec) :: rest) = reg.granted rest := by
  rw [granted, failed]

theorem refused_of_ok (added : reg.add name spec = .ok reg') (n : Nat)
    (rest : List (Nat × String × String)) :
    reg.refused ((n, name, spec) :: rest) = reg'.refused rest := by
  rw [refused, added]

theorem refused_of_error (failed : reg.add name spec = .error fault) (n : Nat)
    (rest : List (Nat × String × String)) :
    reg.refused ((n, name, spec) :: rest) = (n, fault) :: reg.refused rest := by
  rw [refused, failed]

end Steps

theorem size_attemptAll (reg : Registry) (additions : List (String × String)) :
    (reg.attemptAll additions).size = reg.size + (reg.granted additions).length := by
  induction additions generalizing reg with
  | nil => rfl
  | cons p rest ih =>
    obtain ⟨name, spec⟩ := p
    cases added : reg.add name spec with
    | error fault => rw [attemptAll_of_error added, granted_of_error added, ih]
    | ok reg' =>
      rw [attemptAll_of_ok added, granted_of_ok added, ih, (added_of_add added).size,
        List.length_cons]
      omega

theorem attemptAll_granted (reg : Registry) (additions : List (String × String)) :
    reg.attemptAll (reg.granted additions) = reg.attemptAll additions ∧
      reg.granted (reg.granted additions) = reg.granted additions := by
  induction additions generalizing reg with
  | nil => exact ⟨rfl, rfl⟩
  | cons p rest ih =>
    obtain ⟨name, spec⟩ := p
    cases added : reg.add name spec with
    | error fault =>
      rw [granted_of_error added, attemptAll_of_error added]
      exact ih reg
    | ok reg' =>
      obtain ⟨same, none_less⟩ := ih reg'
      rw [granted_of_ok added, attemptAll_of_ok added, attemptAll_of_ok added, granted_of_ok added,
        same, none_less]
      exact ⟨rfl, rfl⟩

theorem length_granted_refused (reg : Registry) (rules : List (Nat × String × String)) :
    (reg.granted (rules.map Prod.snd)).length + (reg.refused rules).length = rules.length := by
  induction rules generalizing reg with
  | nil => rfl
  | cons r rest ih =>
    obtain ⟨n, name, spec⟩ := r
    cases added : reg.add name spec with
    | error fault =>
      have rest_length := ih reg
      rw [List.map_cons, granted_of_error added, refused_of_error added, List.length_cons,
        List.length_cons]
      omega
    | ok reg' =>
      have rest_length := ih reg'
      rw [List.map_cons, granted_of_ok added, refused_of_ok added, List.length_cons,
        List.length_cons]
      omega

theorem refused_sublist (reg : Registry) (rules : List (Nat × String × String)) :
    ((reg.refused rules).map Prod.fst).Sublist (rules.map Prod.fst) := by
  induction rules generalizing reg with
  | nil => exact List.Sublist.slnil
  | cons r rest ih =>
    obtain ⟨n, name, spec⟩ := r
    cases added : reg.add name spec with
    | error fault =>
      rw [refused_of_error added]
      exact (ih reg).cons_cons n
    | ok reg' =>
      rw [refused_of_ok added]
      exact (ih reg').cons n

theorem mem_refused_iff (reg : Registry) (rules : List (Nat × String × String)) (n : Nat)
    (fault : Fault) : (n, fault) ∈ reg.refused rules ↔
      ∃ before name spec after, rules = before ++ (n, name, spec) :: after ∧
        (reg.attemptAll (before.map Prod.snd)).add name spec = .error fault := by
  induction rules generalizing reg with
  | nil => simp [refused]
  | cons r rest ih =>
    obtain ⟨m, name, spec⟩ := r
    -- A refused rule is the first one, with its own fault, or is refused among the others.
    have split : (∃ before name' spec' after,
        (m, name, spec) :: rest = before ++ (n, name', spec') :: after ∧
          (reg.attemptAll (before.map Prod.snd)).add name' spec' = .error fault) ↔
        (n = m ∧ reg.add name spec = .error fault) ∨
          (n, fault) ∈ (reg.attempt name spec).refused rest := by
      rw [ih]
      constructor
      · intro place
        obtain ⟨before, name', spec', after, cut, failed⟩ := place
        cases before with
        | nil =>
          obtain ⟨⟨rfl, rfl, rfl⟩, rfl⟩ : (m = n ∧ name = name' ∧ spec = spec') ∧ rest = after := by
            simpa using cut
          exact Or.inl ⟨rfl, failed⟩
        | cons first before =>
          obtain ⟨rfl, rfl⟩ := List.cons.inj cut
          exact Or.inr ⟨before, name', spec', after, rfl, failed⟩
      · intro place
        rcases place with ⟨rfl, failed⟩ | ⟨before, name', spec', after, rfl, failed⟩
        · exact ⟨[], name, spec, rest, rfl, failed⟩
        · exact ⟨(m, name, spec) :: before, name', spec', after, rfl, failed⟩
    rw [split, attempt]
    cases added : reg.add name spec with
    | error fault' =>
      simp only [refused_of_error added, List.mem_cons, Prod.mk.injEq, Except.error.injEq]
      rw [eq_comm (a := fault)]
    | ok reg' => simp [refused_of_ok added]

/-- What is left when the refused rules are taken out by their numbers are the ones that succeed. -/
theorem kept_eq_granted (reg : Registry) {rules : List (Nat × String × String)}
    (increasing : (rules.map Prod.fst).Pairwise (· < ·)) :
    (rules.filter fun r => r.1 ∉ (reg.refused rules).map Prod.fst).map Prod.snd =
      reg.granted (rules.map Prod.snd) := by
  induction rules generalizing reg with
  | nil => rfl
  | cons r rest ih =>
    obtain ⟨n, name, spec⟩ := r
    obtain ⟨first, increasing'⟩ := List.pairwise_cons.mp increasing
    cases added : reg.add name spec with
    | error fault =>
      have others : ∀ r ∈ rest, (decide (r.1 ∉ n :: (reg.refused rest).map Prod.fst)) =
          decide (r.1 ∉ (reg.refused rest).map Prod.fst) := by
        intro r member
        have above : n < r.1 := first r.1 (List.mem_map.mpr ⟨r, member, rfl⟩)
        have differs : r.1 ≠ n := by omega
        simp [differs]
      rw [refused_of_error added, List.map_cons, List.map_cons, granted_of_error added,
        List.filter_cons_of_neg (by simp), List.filter_congr others, ih reg increasing']
    | ok reg' =>
      have own : n ∉ (reg'.refused rest).map Prod.fst := by
        intro member
        exact Nat.lt_irrefl n (first n ((reg'.refused_sublist rest).subset member))
      rw [refused_of_ok added, List.map_cons, granted_of_ok added,
        List.filter_cons_of_pos (by simpa using own), List.map_cons, ih reg' increasing']

theorem loadLines_eq (reg : Registry) (number : Nat) (lines : List String) :
    (reg.loadLines number lines).loaded =
        (reg.granted ((RuleLine.numbered number lines).map Prod.snd)).length ∧
      (reg.loadLines number lines).skipped = reg.refused (RuleLine.numbered number lines) := by
  induction lines generalizing reg number with
  | nil => exact ⟨rfl, rfl⟩
  | cons line rest ih =>
    cases read : RuleLine.read line with
    | passedOver =>
      rw [loadLines, read, RuleLine.numbered_cons_none (by rw [read]; rfl)]
      exact ih reg (number + 1)
    | ignored text =>
      rw [loadLines, read, RuleLine.numbered_cons_none (by rw [read]; rfl)]
      exact ih reg (number + 1)
    | rule name spec =>
      rw [RuleLine.numbered_cons_some (by rw [read]; rfl), List.map_cons]
      cases added : reg.add name spec with
      | ok reg' =>
        obtain ⟨loaded, skipped⟩ := ih reg' (number + 1)
        simp only [loadLines, read, added]
        rw [granted_of_ok added, refused_of_ok added, List.length_cons, ← loaded, ← skipped]
        exact ⟨rfl, rfl⟩
      | error fault =>
        obtain ⟨loaded, skipped⟩ := ih reg (number + 1)
        simp only [loadLines, read, added]
        rw [granted_of_error added, refused_of_error added, ← loaded, ← skipped]
        exact ⟨rfl, rfl⟩

section Load

variable (reg : Registry) (text : String)

theorem registry_load :
    (reg.load text).registry = reg.attemptAll ((ruleLines text).map Prod.snd) := by
  rw [ruleLines, RuleLine.additions_numbered]
  exact reg.registry_loadLines 1 (Text.lines text)

theorem loaded_load :
    (reg.load text).loaded = (reg.granted ((ruleLines text).map Prod.snd)).length :=
  (reg.loadLines_eq 1 (Text.lines text)).1

theorem skipped_load : (reg.load text).skipped = reg.refused (ruleLines text) :=
  (reg.loadLines_eq 1 (Text.lines text)).2

end Load

end Registry

theorem bad_lines_change_nothing (reg : Registry) (text : String) :
    let l := reg.load text
    let rules := ruleLines text
    (∀ n name spec, (n, name, spec) ∈ rules ↔
      1 ≤ n ∧ ∃ line, (Text.lines text)[n - 1]? = some line ∧ RuleLine.Asks line name spec) ∧
    (rules.map Prod.fst).Pairwise (· < ·) ∧
    (∀ n name spec, (n, name, spec) ∈ rules → name ≠ "" ∧ spec ≠ "") ∧
    l.registry = reg.attemptAll (rules.map Prod.snd) ∧
    l.loaded + l.skipped.length = rules.length ∧
    l.registry.size = reg.size + l.loaded ∧
    (l.skipped.map Prod.fst).Pairwise (· < ·) ∧
    (∀ n fault, (n, fault) ∈ l.skipped ↔
      ∃ before name spec after, rules = before ++ (n, name, spec) :: after ∧
        (reg.attemptAll (before.map Prod.snd)).add name spec = .error fault) ∧
    (∀ n fault, (n, fault) ∈ l.skipped → fault.recoverable = true) ∧
    let l' := reg.load (Text.blankOut (l.skipped.map Prod.fst) text)
    l'.registry = l.registry ∧ l'.loaded = l.loaded ∧ l'.skipped = [] := by
  intro l rules
  have numbers := RuleLine.mem_numbered_iff 1 (Text.lines text)
  have increasing := RuleLine.numbered_increasing 1 (Text.lines text)
  have registry : l.registry = reg.attemptAll (rules.map Prod.snd) := reg.registry_load text
  have loaded : l.loaded = (reg.granted (rules.map Prod.snd)).length := reg.loaded_load text
  have skipped : l.skipped = reg.refused rules := reg.skipped_load text
  have faults := reg.mem_refused_iff rules
  refine ⟨numbers, increasing, ?_, registry, ?_, ?_, ?_, ?_, ?_, ?_⟩
  · intro n name spec member
    obtain ⟨_, line, _, asks⟩ := (numbers n name spec).mp member
    exact asks.nonempty
  · rw [loaded, skipped]
    exact reg.length_granted_refused rules
  · rw [registry, loaded]
    exact reg.size_attemptAll _
  · rw [skipped]
    exact increasing.sublist (reg.refused_sublist rules)
  · rw [skipped]
    exact faults
  · intro n fault member
    rw [skipped] at member
    obtain ⟨_, _, _, _, _, failed⟩ := (faults n fault).mp member
    exact Registry.add_fault_recoverable failed
  · intro l'
    have kept : (ruleLines (Text.blankOut (l.skipped.map Prod.fst) text)).map Prod.snd =
        reg.granted (rules.map Prod.snd) := by
      rw [ruleLines_blankOut, skipped]
      exact reg.kept_eq_granted increasing
    obtain ⟨same, none_less⟩ := reg.attemptAll_granted (rules.map Prod.snd)
    refine ⟨?_, ?_, ?_⟩
    · rw [reg.registry_load, kept, same, registry]
    · rw [reg.loaded_load, kept, none_less, loaded]
    · have balance := reg.length_granted_refused
        (ruleLines (Text.blankOut (l.skipped.map Prod.fst) text))
      rw [kept, none_less, ← kept, List.length_map] at balance
      rw [reg.skipped_load]
      exact List.length_eq_zero_iff.mp (by omega)

namespace Sample

def ruleFile : String :=
  "# rules\nArtists = /${artist}\r\nArtists = /${n}\nall = ar\n\tar  =  Artists \nnone = /"

end Sample

theorem bad_lines_change_nothing_late :
    let l := Registry.empty.load Sample.ruleFile
    ruleLines Sample.ruleFile = [(2, "Artists", "/${artist}"), (3, "Artists", "/${n}"),
      (4, "all", "ar"), (5, "ar", "Artists"), (6, "none", "/")] ∧
    l.skipped = [(3, .duplicateRule "Artists"), (4, .undefinedTarget "all" "ar"),
      (6, .invalidRule (.tooShort "/"))] ∧
    (Fault.undefinedTarget "all" "ar").recoverable = true ∧
    Text.blankOut [3, 4, 6] Sample.ruleFile =
      "# rules\nArtists = /${artist}\r\n\n\n\tar  =  Artists \n" ∧
    (Registry.empty.load (Text.blankOut [3, 4, 6] Sample.ruleFile)).registry = l.registry ∧
    (Registry.empty.load (Text.blankOut [3, 4, 6] Sample.ruleFile)).loaded = 2 ∧
    (Registry.empty.load (Text.blankOut [3, 4, 6] Sample.ruleFile)).skipped = [] := by
  intro l
  have rules : ruleLines Sample.ruleFile = [(2, "Artists", "/${artist}"), (3, "Artists", "/${n}"),
      (4, "all", "ar"), (5, "ar", "Artists"), (6, "none", "/")] := by decide +kernel
  have skipped : l.skipped = [(3, .duplicateRule "Artists"), (4, .undefinedTarget "all" "ar"),
      (6, .invalidRule (.tooShort "/"))] := by decide +kernel
  obtain ⟨_, _, _, _, balance, _, _, _, recoverable, registry, again, none_left⟩ :=
    bad_lines_change_nothing Registry.empty Sample.ruleFile
  have loaded : l.loaded = 2 := by
    change l.loaded + l.skipped.length = (ruleLines Sample.ruleFile).length at balance
    rw [skipped, rules] at balance
    exact Nat.add_right_cancel balance
  have numbers : l.skipped.map Prod.fst = [3, 4, 6] := by rw [skipped]; rfl
  rw [numbers] at registry again none_left
  refine ⟨rules, skipped, ?_, by decide +kernel, registry, again.trans loaded, none_left⟩
  exact recoverable 4 _ (by rw [skipped]; simp)

end MediaPaths
