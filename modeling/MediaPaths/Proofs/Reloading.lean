import MediaPaths.Proofs.BadLines

/-!
Loading a rule file over again. A rule that was added, or whose name is taken, or whose template does
not compile, cannot be added later on; only an alias of a missing name can. So a file that reported no
missing name has nothing more to load. In any case each load that adds something takes names of the
file that were free before, which can happen only as many times as the file has rules.
-/
namespace MediaPaths

namespace Registry

theorem contains_of_within {reg later : Registry} (kept : reg.rules.Within later.rules)
    {name : String} (known : reg.contains name = true) : later.contains name = true := by
  rw [contains_eq, Option.isSome_iff_exists] at known ⊢
  obtain ⟨registered, found⟩ := known
  exact ⟨registered, kept name registered found⟩

theorem add_of_contains {reg : Registry} {name : String} (known : reg.contains name = true)
    (spec : String) : reg.add name spec = .error (.duplicateRule name) := by
  rw [add, if_pos known]

theorem contains_of_added {reg reg' : Registry} {name spec : String}
    (added : reg.Added name spec reg') : reg'.contains name = true := by
  obtain ⟨registered, own⟩ := added.get?_own
  rw [contains_eq, own, Option.isSome_some]

/-- An addition that fails now and will fail in every later registry. -/
def Hopeless (reg : Registry) (name spec : String) : Prop :=
  reg.contains name = true ∨
    isTemplate spec = true ∧ ∃ cause, Rule.compile spec = .error cause

section Hopeless

variable {reg later : Registry} {name spec : String}

theorem Hopeless.fails (hopeless : reg.Hopeless name spec) :
    ∃ fault, reg.add name spec = .error fault := by
  rcases hopeless with known | ⟨slash, cause, failed⟩
  · exact ⟨_, add_of_contains known spec⟩
  · by_cases known : reg.contains name = true
    · exact ⟨_, add_of_contains known spec⟩
    · exact ⟨.invalidRule cause, by simp [add, known, slash, failed]⟩

theorem Hopeless.mono (kept : reg.rules.Within later.rules) (hopeless : reg.Hopeless name spec) :
    later.Hopeless name spec :=
  hopeless.imp_left (contains_of_within kept)

theorem hopeless_of_error {fault : Fault} (failed : reg.add name spec = .error fault)
    (other : fault ≠ .undefinedTarget name spec) : reg.Hopeless name spec := by
  by_cases known : reg.contains name = true
  · exact Or.inl known
  · by_cases slash : isTemplate spec = true
    · cases compiled : Rule.compile spec with
      | ok rule => simp [add, known, slash, compiled] at failed
      | error cause => exact Or.inr ⟨slash, cause, compiled⟩
    · cases found : reg.get? spec with
      | some target => simp [add, known, slash, found] at failed
      | none =>
        simp only [add, known, slash, found, Bool.false_eq_true, ↓reduceIte,
          Except.error.injEq] at failed
        exact absurd failed.symm other

end Hopeless

/-- After a load that misses no target, nothing of the file can be added any more. -/
theorem hopeless_after (reg : Registry) (rules : List (Nat × String × String))
    (targets : ∀ n name target, (n, .undefinedTarget name target) ∉ reg.refused rules) :
    ∀ r ∈ rules, (reg.attemptAll (rules.map Prod.snd)).Hopeless r.2.1 r.2.2 := by
  induction rules generalizing reg with
  | nil => simp
  | cons first rest ih =>
    obtain ⟨n, name, spec⟩ := first
    intro r member
    rw [List.map_cons]
    cases added : reg.add name spec with
    | ok reg' =>
      rw [refused_of_ok added] at targets
      rw [attemptAll_of_ok added]
      rcases List.mem_cons.mp member with rfl | inside
      · have own : reg'.Hopeless name spec := Or.inl (contains_of_added (added_of_add added))
        exact own.mono (reg'.attemptAll_keeps _)
      · exact ih reg' targets r inside
    | error fault =>
      rw [refused_of_error added] at targets
      rw [attemptAll_of_error added]
      rcases List.mem_cons.mp member with rfl | inside
      · have other : fault ≠ .undefinedTarget name spec := by
          intro same
          exact targets n name spec (by simp [same])
        exact (hopeless_of_error added other).mono (reg.attemptAll_keeps _)
      · exact ih reg (fun m name' target missing =>
          targets m name' target (List.mem_cons_of_mem _ missing)) r inside

theorem granted_eq_nil {reg : Registry} {additions : List (String × String)}
    (fail : ∀ p ∈ additions, ∃ fault, reg.add p.1 p.2 = .error fault) :
    reg.granted additions = [] := by
  induction additions with
  | nil => rfl
  | cons p rest ih =>
    obtain ⟨fault, failed⟩ := fail p (by simp)
    rw [granted_of_error failed]
    exact ih fun q member => fail q (List.mem_cons_of_mem p member)

theorem registry_load_of_loaded_zero {reg : Registry} {text : String}
    (nothing : (reg.load text).loaded = 0) : (reg.load text).registry = reg := by
  rw [loaded_load, List.length_eq_zero_iff] at nothing
  have same := (reg.attemptAll_granted ((ruleLines text).map Prod.snd)).1
  rw [nothing] at same
  exact (reg.registry_load text).trans same.symm

def missing (reg : Registry) (additions : List (String × String)) : Nat :=
  additions.countP fun p => !reg.contains p.1

theorem missing_of_added {reg reg' : Registry} {name spec : String}
    (added : reg.Added name spec reg') {additions : List (String × String)}
    (member : (name, spec) ∈ additions) : reg'.missing additions < reg.missing additions := by
  have fresh : reg.contains name = false := by rw [contains_eq, added.fresh, Option.isSome_none]
  have taken := contains_of_added added
  have fewer : ∀ others : List (String × String), reg'.missing others ≤ reg.missing others := by
    intro others
    apply List.countP_mono_left
    intro p _ free
    rw [Bool.not_eq_true', ← Bool.not_eq_true] at free ⊢
    exact fun known => free (contains_of_within added.keeps known)
  obtain ⟨front, back, rfl⟩ := List.append_of_mem member
  have in_front := fewer front
  have behind := fewer back
  simp only [missing, List.countP_append, List.countP_cons, fresh, taken] at in_front behind ⊢
  simp only [Bool.not_true, Bool.not_false, Bool.false_eq_true, ↓reduceIte]
  omega

theorem missing_attemptAll (reg : Registry) {additions rules : List (String × String)}
    (within : additions ⊆ rules) :
    (reg.attemptAll additions).missing rules + (reg.granted additions).length ≤
      reg.missing rules := by
  induction additions generalizing reg with
  | nil => exact Nat.le_refl _
  | cons p rest ih =>
    obtain ⟨name, spec⟩ := p
    obtain ⟨member, within'⟩ := List.cons_subset.mp within
    cases added : reg.add name spec with
    | error fault =>
      rw [attemptAll_of_error added, granted_of_error added]
      exact ih reg within'
    | ok reg' =>
      have fewer := missing_of_added (added_of_add added) member
      have further := ih reg' within'
      rw [attemptAll_of_ok added, granted_of_ok added, List.length_cons]
      omega

theorem missing_load (reg : Registry) (text : String) :
    (reg.load text).registry.missing ((ruleLines text).map Prod.snd) + (reg.load text).loaded ≤
      reg.missing ((ruleLines text).map Prod.snd) := by
  rw [registry_load, loaded_load]
  exact reg.missing_attemptAll (List.Subset.refl _)

theorem run_loads_of_loaded_zero {reg : Registry} {text : String}
    (nothing : (reg.load text).loaded = 0) (n : Nat) :
    reg.run (List.replicate n (.load text)) = reg := by
  induction n with
  | zero => rfl
  | succ n ih =>
    have once : reg.after (.load text) = reg := registry_load_of_loaded_zero nothing
    rw [List.replicate_succ, run, List.foldl_cons, once]
    exact ih

/-- Each load takes a free name of the file, until one takes none and all the others follow it. -/
theorem loaded_after_loads (reg : Registry) (text : String) (n : Nat)
    (few : reg.missing ((ruleLines text).map Prod.snd) ≤ n) :
    ((reg.run (List.replicate n (.load text))).load text).loaded = 0 := by
  induction n generalizing reg with
  | zero =>
    have balance := reg.missing_load text
    change (reg.load text).loaded = 0
    omega
  | succ n ih =>
    by_cases nothing : (reg.load text).loaded = 0
    · -- A load without effect is repeated without effect.
      rw [run_loads_of_loaded_zero nothing]
      exact nothing
    · have balance := reg.missing_load text
      rw [List.replicate_succ, run, List.foldl_cons]
      exact ih (reg.load text).registry (by omega)

end Registry

theorem reloading_converges (reg : Registry) (text : String) :
    let first := reg.load text
    let settled := reg.run (List.replicate (ruleLines text).length (.load text))
    ((∀ n name target, (n, .undefinedTarget name target) ∉ first.skipped) →
      (first.registry.load text).loaded = 0 ∧
        (first.registry.load text).registry = first.registry) ∧
    (settled.load text).loaded = 0 ∧ (settled.load text).registry = settled ∧
    ∀ name registered, reg.get? name = some registered →
      first.registry.get? name = some registered := by
  intro first settled
  have registry : first.registry = reg.attemptAll ((ruleLines text).map Prod.snd) :=
    reg.registry_load text
  have few : reg.missing ((ruleLines text).map Prod.snd) ≤ (ruleLines text).length := by
    rw [← List.length_map (f := Prod.snd)]
    exact List.countP_le_length
  have nothing : (settled.load text).loaded = 0 := reg.loaded_after_loads text _ few
  refine ⟨?_, nothing, Registry.registry_load_of_loaded_zero nothing, ?_⟩
  · intro targets
    have skipped : first.skipped = reg.refused (ruleLines text) := reg.skipped_load text
    rw [skipped] at targets
    have hopeless := reg.hopeless_after (ruleLines text) targets
    have again : (first.registry.load text).loaded = 0 := by
      rw [Registry.loaded_load, registry, Registry.granted_eq_nil, List.length_nil]
      intro p member
      obtain ⟨r, inside, rfl⟩ := List.mem_map.mp member
      exact (hopeless r inside).fails
    exact ⟨again, Registry.registry_load_of_loaded_zero again⟩
  · rw [registry]
    exact reg.attemptAll_keeps _

namespace Sample

def chain : String := "all = ar\nar = Artists\nArtists = /${artist}\nArtists = /${n}\n"

def chained : Registry := Registry.empty.run [.load chain, .load chain]

end Sample

theorem reloading_converges_chain :
    (Registry.empty.load Sample.chain).loaded = 1 ∧ Sample.chained.size = 2 ∧
      (Sample.chained.load Sample.chain).loaded = 1 ∧
      (∀ n name target, (n, .undefinedTarget name target) ∉
        (Sample.chained.load Sample.chain).skipped) ∧
      ((Sample.chained.load Sample.chain).registry.load Sample.chain).loaded = 0 ∧
      ((Registry.empty.run (List.replicate 4 (.load Sample.chain))).load Sample.chain).loaded = 0 := by
  have rules : (ruleLines Sample.chain).length = 4 := by decide +kernel
  have skipped : (Sample.chained.load Sample.chain).skipped =
      [(2, .duplicateRule "ar"), (3, .duplicateRule "Artists"), (4, .duplicateRule "Artists")] := by
    decide +kernel
  have targets : ∀ n name target, (n, .undefinedTarget name target) ∉
      (Sample.chained.load Sample.chain).skipped := by
    rw [skipped]
    simp
  obtain ⟨again, _⟩ := reloading_converges Sample.chained Sample.chain
  obtain ⟨_, settled, _⟩ := reloading_converges Registry.empty Sample.chain
  rw [rules] at settled
  exact ⟨by decide +kernel, by decide +kernel, by decide +kernel, targets, (again targets).1, settled⟩

end MediaPaths
