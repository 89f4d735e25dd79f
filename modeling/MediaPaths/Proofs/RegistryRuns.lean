import MediaPaths.Proofs.Compilation
import MediaPaths.Proofs.Elements
import MediaPaths.Proofs.Merge
import MediaPaths.RuleFile

/-!
Runs of a registry. A registry changes only by additions that succeed: a rule file is loaded by
adding its rule lines one after the other, and an addition that fails leaves the registry as it was.
What one addition can do is said once (`Registry.Added`), and what every registry has follows from it
by one induction over runs (`Registry.run_induction`).
-/
namespace MediaPaths

inductive Call where
  | add (name spec : String)
  | load (text : String)
  deriving DecidableEq, Repr

def RuleLine.addition? : RuleLine → Option (String × String)
  | .rule name spec => some (name, spec)
  | _ => none

def Call.additions : Call → List (String × String)
  | .add name spec => [(name, spec)]
  | .load text => (Text.lines text).filterMap fun line => (RuleLine.read line).addition?

namespace Registry

/-- An addition that fails gives no registry, and the one before it stays in use. -/
def attempt (reg : Registry) (name spec : String) : Registry :=
  match reg.add name spec with
  | .ok reg' => reg'
  | .error _ => reg

def after (reg : Registry) : Call → Registry
  | .add name spec => reg.attempt name spec
  | .load text => (reg.load text).registry

def run (reg : Registry) (calls : List Call) : Registry := calls.foldl after reg

def attemptAll (reg : Registry) : List (String × String) → Registry
  | [] => reg
  | (name, spec) :: rest => (reg.attempt name spec).attemptAll rest

def granted (reg : Registry) : List (String × String) → List (String × String)
  | [] => []
  | (name, spec) :: rest =>
    match reg.add name spec with
    | .ok reg' => (name, spec) :: reg'.granted rest
    | .error _ => reg.granted rest

theorem mem_names_iff (reg : Registry) (name : String) :
    name ∈ reg.names ↔ ∃ registered, reg.get? name = some registered :=
  reg.rules.mem_keys_iff name

inductive Added (reg : Registry) (name spec : String) : Registry → Prop where
  | template {rule : Rule} (fresh : reg.get? name = none) (slash : isTemplate spec = true)
      (compiled : Rule.compile spec = .ok rule) :
      Added reg name spec (reg.insert name ⟨reg.size, rule⟩)
  | aliased {target : Registered} (fresh : reg.get? name = none) (plain : isTemplate spec = false)
      (found : reg.get? spec = some target) : Added reg name spec (reg.insert name target)

theorem added_of_add {reg reg' : Registry} {name spec : String}
    (added : reg.add name spec = .ok reg') : reg.Added name spec reg' := by
  unfold add at added
  split at added
  · cases added
  · rename_i unknown
    have fresh : reg.get? name = none := by simpa [contains_eq] using unknown
    split at added
    · rename_i slash
      cases compiled : Rule.compile spec with
      | error cause => simp [compiled] at added
      | ok rule =>
        simp only [compiled, Except.ok.injEq] at added
        exact added ▸ Added.template fresh slash compiled
    · rename_i plain
      cases found : reg.get? spec with
      | none => simp [found] at added
      | some target =>
        simp only [found, Except.ok.injEq] at added
        exact added ▸ Added.aliased fresh (by simpa using plain) found

section Added

variable {reg reg' : Registry} {name spec : String}

theorem Added.fresh (added : reg.Added name spec reg') : reg.get? name = none := by
  cases added <;> assumption

theorem Added.eq_insert (added : reg.Added name spec reg') :
    ∃ registered, reg' = reg.insert name registered := by
  cases added <;> exact ⟨_, rfl⟩

theorem Added.get?_own (added : reg.Added name spec reg') :
    ∃ registered, reg'.get? name = some registered := by
  obtain ⟨registered, rfl⟩ := added.eq_insert
  exact ⟨registered, by simp⟩

theorem Added.get?_other (added : reg.Added name spec reg') {other : String}
    (differs : other ≠ name) : reg'.get? other = reg.get? other := by
  obtain ⟨registered, rfl⟩ := added.eq_insert
  simp [differs]

theorem Added.size (added : reg.Added name spec reg') : reg'.size = reg.size + 1 := by
  have fresh := added.fresh
  obtain ⟨registered, rfl⟩ := added.eq_insert
  exact Table.size_insert fresh registered

theorem Added.keeps (added : reg.Added name spec reg') : reg.rules.Within reg'.rules := by
  intro other registered found
  have differs : other ≠ name := by
    intro same
    have fresh := added.fresh
    rw [← same] at fresh
    exact absurd (fresh.symm.trans found) (by simp)
  exact (added.get?_other differs).trans found

theorem get?_attempt_other {other : String} (differs : other ≠ name) :
    (reg.attempt name spec).get? other = reg.get? other := by
  cases added : reg.add name spec with
  | error fault => simp only [attempt, added]
  | ok reg' =>
    simp only [attempt, added]
    exact (added_of_add added).get?_other differs

end Added

theorem registry_loadLines (reg : Registry) (number : Nat) (lines : List String) :
    (reg.loadLines number lines).registry =
      reg.attemptAll (lines.filterMap fun line => (RuleLine.read line).addition?) := by
  induction lines generalizing reg number with
  | nil => rfl
  | cons line rest ih =>
    cases read : RuleLine.read line with
    | passedOver => simp [loadLines, read, RuleLine.addition?, ih]
    | ignored text => simp [loadLines, read, RuleLine.addition?, ih]
    | rule name spec =>
      cases added : reg.add name spec with
      | ok reg' => simp [loadLines, read, RuleLine.addition?, added, ih, attemptAll, attempt]
      | error fault => simp [loadLines, read, RuleLine.addition?, added, ih, attemptAll, attempt]

theorem after_eq (reg : Registry) (call : Call) : reg.after call = reg.attemptAll call.additions := by
  cases call with
  | add name spec => rfl
  | load text => exact reg.registry_loadLines 1 (Text.lines text)

theorem attemptAll_append (reg : Registry) (first second : List (String × String)) :
    reg.attemptAll (first ++ second) = (reg.attemptAll first).attemptAll second := by
  induction first generalizing reg with
  | nil => rfl
  | cons p rest ih => exact ih (reg.attempt p.1 p.2)

theorem run_eq (reg : Registry) (calls : List Call) :
    reg.run calls = reg.attemptAll (calls.flatMap Call.additions) := by
  induction calls generalizing reg with
  | nil => rfl
  | cons call rest ih =>
    rw [List.flatMap_cons, attemptAll_append, ← after_eq]
    exact ih (reg.after call)

/-- What holds at first and is kept by every addition that succeeds holds in the end. It may speak of
the additions that have succeeded so far. -/
theorem granted_induction {motive : Registry → List (String × String) → Prop}
    (step : ∀ reg log name spec reg', motive reg log → reg.Added name spec reg' →
      motive reg' (log ++ [(name, spec)]))
    {reg : Registry} (log : List (String × String)) (start : motive reg log)
    (additions : List (String × String)) :
    motive (reg.attemptAll additions) (log ++ reg.granted additions) := by
  induction additions generalizing reg log with
  | nil => simpa [attemptAll, granted] using start
  | cons p rest ih =>
    obtain ⟨name, spec⟩ := p
    cases added : reg.add name spec with
    | error fault => simpa [attemptAll, attempt, granted, added] using ih log start
    | ok reg' =>
      have next := ih _ (step reg log name spec reg' start (added_of_add added))
      simpa [attemptAll, attempt, granted, added] using next

theorem run_induction {motive : Registry → Prop}
    (step : ∀ reg name spec reg', motive reg → reg.Added name spec reg' → motive reg')
    {reg : Registry} (start : motive reg) (calls : List Call) : motive (reg.run calls) := by
  rw [run_eq]
  exact granted_induction (motive := fun reg _ => motive reg) (fun reg _ => step reg) [] start _

theorem attemptAll_keeps (reg : Registry) (additions : List (String × String)) :
    reg.rules.Within (reg.attemptAll additions).rules := by
  apply granted_induction (motive := fun later _ => reg.rules.Within later.rules) _ []
  · exact fun _ _ found => found
  · intro before _ name spec later kept added other registered found
    exact added.keeps other registered (kept other registered found)

theorem run_keeps (reg : Registry) (calls : List Call) :
    reg.rules.Within (reg.run calls).rules := by
  rw [run_eq]
  exact reg.attemptAll_keeps _

theorem resolve_of_within {reg later : Registry} (kept : reg.rules.Within later.rules)
    {path : String} {w : Walk} (resolved : reg.resolve path = .ok w) :
    later.resolve path = .ok w := by
  obtain ⟨address, registered, read, found, walked⟩ := resolve_eq_ok_iff.mp resolved
  exact resolve_eq_ok_iff.mpr ⟨address, registered, read, kept _ _ found, walked⟩

/-- Every rule is a compiled template, though not of the name's own spec where that is an alias. -/
def AllCompiled (reg : Registry) : Prop :=
  ∀ name registered, reg.get? name = some registered →
    ∃ spec, Rule.compile spec = .ok registered.rule

theorem AllCompiled.step {reg reg' : Registry} {name spec : String} (sound : reg.AllCompiled)
    (added : reg.Added name spec reg') : reg'.AllCompiled := by
  intro other registered found
  by_cases own : other = name
  · cases added with
    | template fresh slash compiled =>
      obtain rfl : _ = registered := by simpa [own] using found
      exact ⟨spec, compiled⟩
    | aliased fresh plain target =>
      obtain rfl : _ = registered := by simpa [own] using found
      exact sound spec _ target
  · rw [added.get?_other own] at found
    exact sound other registered found

theorem run_allCompiled (calls : List Call) : (empty.run calls).AllCompiled := by
  apply run_induction (motive := AllCompiled)
  · intro reg name spec reg' sound added
    exact sound.step added
  · intro name registered found
    simp at found

end Registry

theorem registry_runs_keep_rules (calls : List Call) :
    let reg := Registry.empty.run calls
    (∀ name spec fault, reg.add name spec = .error fault → reg.after (.add name spec) = reg) ∧
    (∀ name spec reg', reg.add name spec = .ok reg' →
      reg.after (.add name spec) = reg' ∧ reg.contains name = false ∧
      reg'.contains name = true ∧ reg'.size = reg.size + 1 ∧
      ∀ other, other ≠ name → reg'.get? other = reg.get? other) ∧
    (∀ more,
      (∀ name registered, reg.get? name = some registered →
        (reg.run more).get? name = some registered) ∧
      ∀ path w, reg.resolve path = .ok w → (reg.run more).resolve path = .ok w) ∧
    ∀ name registered, reg.get? name = some registered →
      (∃ spec, spec.toList.head? = some '/' ∧ Rule.compile spec = .ok registered.rule) ∧
      registered.rule.levels ≠ [] ∧
      ∀ level ∈ registered.rule.levels, level.format ≠ "" ∧ '/' ∉ level.format.toList := by
  intro reg
  refine ⟨?_, ?_, ?_, ?_⟩
  · intro name spec fault failed
    simp only [Registry.after, Registry.attempt, failed]
  · intro name spec reg' succeeded
    have added := Registry.added_of_add succeeded
    obtain ⟨registered, own⟩ := added.get?_own
    refine ⟨?_, ?_, ?_, added.size, fun other differs => added.get?_other differs⟩
    · simp only [Registry.after, Registry.attempt, succeeded]
    · rw [Registry.contains_eq, added.fresh, Option.isSome_none]
    · rw [Registry.contains_eq, own, Option.isSome_some]
  · intro more
    have kept := reg.run_keeps more
    exact ⟨kept, fun path w resolved => Registry.resolve_of_within kept resolved⟩
  · intro name registered found
    obtain ⟨spec, compiled⟩ := Registry.run_allCompiled calls name registered found
    have slash : spec.toList.head? = some '/' := by
      obtain ⟨body, written, _⟩ := Rule.parts_of_compile compiled
      rw [written, List.head?_cons]
    exact ⟨⟨spec, slash, compiled⟩, registered.rule.nonempty, Rule.formats_of_compile compiled⟩

end MediaPaths
