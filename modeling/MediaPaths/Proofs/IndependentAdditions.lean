import Mathlib.Data.List.Sort
import Mathlib.Logic.Equiv.Basic
import MediaPaths.Proofs.Sharing

/-!
Additions that do not ask for each other may be made in either order. An addition looks at its own
name and at its target and at nothing else, so each meets the same answer in both orders. The two
registries that result differ in nothing but the serial numbers of the new rules, which are
exchanged. A serial number only tells which names share a rule, and an exchange keeps that.
-/
namespace MediaPaths

theorem Table.keys_eq_of_mem_iff {α β : Type} {s : Table α} {t : Table β}
    (same : ∀ name, name ∈ s.keys ↔ name ∈ t.keys) : s.keys = t.keys := by
  have irrefl : Std.Irrefl (fun a b : String => a < b) := ⟨String.lt_irrefl⟩
  have antisymm : Std.Antisymm (fun a b : String => a < b) :=
    ⟨fun a b less more => absurd (String.lt_trans less more) (String.lt_irrefl a)⟩
  exact s.keys_increasing.eq_of_mem_iff t.keys_increasing same

def Registered.renumber (f : Nat → Nat) (registered : Registered) : Registered :=
  ⟨f registered.serial, registered.rule⟩

namespace Registry

def refusal (reg : Registry) (name spec : String) : Option Fault :=
  match reg.add name spec with
  | .ok _ => none
  | .error fault => some fault

def ruleFor? (reg : Registry) (spec : String) : Option Registered :=
  if isTemplate spec then
    match Rule.compile spec with
    | .ok rule => some ⟨reg.size, rule⟩
    | .error _ => none
  else reg.get? spec

/-- The same rules under the same names, shared by the same ones: only serial numbers differ. -/
def Alike (reg other : Registry) : Prop :=
  ∃ f : Nat → Nat, Function.Injective f ∧
    ∀ name, other.get? name = (reg.get? name).map (Registered.renumber f)

section Alike

variable {reg other : Registry}

theorem Alike.refl (reg : Registry) : reg.Alike reg :=
  ⟨id, Function.injective_id, fun name => (Option.map_id_apply (x := reg.get? name)).symm⟩

theorem Alike.names (alike : reg.Alike other) : reg.names = other.names := by
  obtain ⟨f, _, renumbered⟩ := alike
  apply Table.keys_eq_of_mem_iff
  intro name
  change name ∈ reg.names ↔ name ∈ other.names
  rw [mem_names_iff, mem_names_iff, renumbered]
  cases reg.get? name <;> simp

theorem Alike.rule (alike : reg.Alike other) (name : String) :
    (reg.get? name).map Registered.rule = (other.get? name).map Registered.rule := by
  obtain ⟨f, _, renumbered⟩ := alike
  rw [renumbered, Option.map_map]
  rfl

theorem Alike.shares (alike : reg.Alike other) (a b : String) :
    reg.shares a b = other.shares a b := by
  obtain ⟨f, injective, renumbered⟩ := alike
  simp only [Registry.shares, renumbered]
  cases reg.get? a with
  | none => rfl
  | some x =>
    cases reg.get? b with
    | none => rfl
    | some y =>
      rw [Bool.eq_iff_iff]
      simp [Registered.renumber, injective.eq_iff]

end Alike

section Independence

variable {reg later : Registry} {name spec : String}

/-- Whether an addition is refused depends on its name and its target alone. -/
theorem refusal_congr (own : later.get? name = reg.get? name)
    (target : later.get? spec = reg.get? spec) :
    later.refusal name spec = reg.refusal name spec := by
  simp only [refusal, add, contains_eq, own, target]
  by_cases taken : (reg.get? name).isSome = true
  · simp only [taken, if_true]
  · by_cases slash : isTemplate spec = true
    · simp only [taken, slash, ↓reduceIte]
      cases Rule.compile spec <;> rfl
    · simp only [taken, slash]
      cases reg.get? spec <;> rfl

theorem attempt_of_refused {fault : Fault} (refused : reg.refusal name spec = some fault) :
    reg.attempt name spec = reg := by
  unfold refusal at refused
  unfold attempt
  cases added : reg.add name spec with
  | error cause => rfl
  | ok reg' => simp [added] at refused

theorem Added.registers (added : reg.Added name spec later) :
    ∃ registered, reg.ruleFor? spec = some registered ∧ later = reg.insert name registered := by
  cases added with
  | template fresh slash compiled => exact ⟨_, by simp [ruleFor?, slash, compiled], rfl⟩
  | aliased fresh plain found => exact ⟨_, by simp [ruleFor?, plain, found], rfl⟩

theorem attempt_of_accepted (accepted : reg.refusal name spec = none) :
    reg.get? name = none ∧ ∃ registered, reg.ruleFor? spec = some registered ∧
      reg.attempt name spec = reg.insert name registered := by
  unfold refusal at accepted
  cases added : reg.add name spec with
  | error fault => simp [added] at accepted
  | ok reg' =>
    obtain ⟨registered, found, rfl⟩ := (added_of_add added).registers
    exact ⟨(added_of_add added).fresh, registered, found, by simp [attempt, added]⟩

end Independence

def exchange (reg : Registry) : Registered → Registered :=
  Registered.renumber (Equiv.swap reg.size (reg.size + 1))

section Exchange

variable {reg : Registry} {a b sa sb : String} {x y : Registered}

theorem exchange_exchange (x : Registered) : reg.exchange (reg.exchange x) = x := by
  simp [exchange, Registered.renumber]

theorem exchange_eq_self (below : x.serial < reg.size) : reg.exchange x = x := by
  have other : x.serial ≠ reg.size := by omega
  have other' : x.serial ≠ reg.size + 1 := by omega
  simp [exchange, Registered.renumber, Equiv.swap_apply_of_ne_of_ne other other']

theorem ruleFor?_insert (below : ∀ name r, reg.get? name = some r → r.serial < reg.size)
    (fresh : reg.get? b = none) (differs : sa ≠ b) (y : Registered) :
    (reg.insert b y).ruleFor? sa = (reg.ruleFor? sa).map reg.exchange := by
  have grown : (reg.insert b y).size = reg.size + 1 := Table.size_insert fresh y
  unfold ruleFor?
  by_cases slash : isTemplate sa = true
  · simp only [slash, ↓reduceIte, grown]
    cases Rule.compile sa with
    | error cause => rfl
    | ok rule =>
      -- The new name took the next number, so a template gets the one behind it.
      simp [exchange, Registered.renumber]
  · simp only [slash, ↓reduceIte, get?_insert, differs]
    cases found : reg.get? sa with
    | none => rfl
    | some r => simp [exchange_eq_self (below sa r found)]

theorem attempt_insert (below : ∀ name r, reg.get? name = some r → r.serial < reg.size)
    (fresh : reg.get? b = none) (differs : sa ≠ b) (found : reg.ruleFor? sa = some x)
    (accepted : (reg.insert b y).refusal a sa = none) :
    (reg.insert b y).attempt a sa = (reg.insert b y).insert a (reg.exchange x) := by
  obtain ⟨_, x', found', inserted⟩ := attempt_of_accepted accepted
  rw [ruleFor?_insert below fresh differs y, found, Option.map_some] at found'
  rw [inserted, Option.some.inj found']

theorem alike_insert (below : ∀ name r, reg.get? name = some r → r.serial < reg.size)
    (apart : a ≠ b) (x y : Registered) :
    ((reg.insert a x).insert b (reg.exchange y)).Alike
      ((reg.insert b y).insert a (reg.exchange x)) := by
  refine ⟨Equiv.swap reg.size (reg.size + 1), Equiv.injective _, fun name => ?_⟩
  change _ = Option.map reg.exchange _
  simp only [get?_insert]
  by_cases first : name = a
  · subst first
    simp [apart]
  · by_cases second : name = b
    · subst second
      simp [first, exchange_exchange]
    · simp only [first, second, ↓reduceIte]
      cases found : reg.get? name with
      | none => rfl
      | some r => simp [exchange_eq_self (below name r found)]

theorem alike_attempts (below : ∀ name r, reg.get? name = some r → r.serial < reg.size)
    (apart : a ≠ b) (first : sa ≠ b) (second : sb ≠ a) :
    ((reg.attempt a sa).attempt b sb).Alike ((reg.attempt b sb).attempt a sa) := by
  have same_a : (reg.attempt b sb).refusal a sa = reg.refusal a sa :=
    refusal_congr (get?_attempt_other apart) (get?_attempt_other first)
  have same_b : (reg.attempt a sa).refusal b sb = reg.refusal b sb :=
    refusal_congr (get?_attempt_other apart.symm) (get?_attempt_other second)
  -- Both orders meet the same refusals, so what is left are two rules under new names.
  cases refused_a : reg.refusal a sa with
  | some fault =>
    rw [attempt_of_refused refused_a, attempt_of_refused (same_a.trans refused_a)]
    exact Alike.refl _
  | none =>
    cases refused_b : reg.refusal b sb with
    | some fault =>
      rw [attempt_of_refused refused_b, attempt_of_refused (same_b.trans refused_b)]
      exact Alike.refl _
    | none =>
      obtain ⟨fresh_a, x, found_a, inserted_a⟩ := attempt_of_accepted refused_a
      obtain ⟨fresh_b, y, found_b, inserted_b⟩ := attempt_of_accepted refused_b
      rw [refused_a, inserted_b] at same_a
      rw [refused_b, inserted_a] at same_b
      rw [inserted_a, inserted_b, attempt_insert below fresh_a second found_b same_b,
        attempt_insert below fresh_b first found_a same_a]
      exact alike_insert below apart x y

end Exchange

end Registry

theorem independent_additions_commute (calls : List Call) {a b sa sb : String} (apart : a ≠ b)
    (first : sa ≠ b) (second : sb ≠ a) :
    let reg := Registry.empty.run calls
    let ab := reg.run [.add a sa, .add b sb]
    let ba := reg.run [.add b sb, .add a sa]
    reg.refusal a sa = (reg.run [.add b sb]).refusal a sa ∧
    (reg.run [.add a sa]).refusal b sb = reg.refusal b sb ∧
    ab.names = ba.names ∧
    (∀ name, (ab.get? name).map Registered.rule = (ba.get? name).map Registered.rule) ∧
    ∀ c d, ab.shares c d = ba.shares c d := by
  intro reg ab ba
  have alike : ab.Alike ba :=
    Registry.alike_attempts (Registry.traced_run calls).below apart first second
  refine ⟨?_, ?_, alike.names, alike.rule, alike.shares⟩
  · exact (Registry.refusal_congr (Registry.get?_attempt_other apart)
      (Registry.get?_attempt_other first)).symm
  · exact Registry.refusal_congr (Registry.get?_attempt_other apart.symm)
      (Registry.get?_attempt_other second)

theorem independent_additions_commute_templates :
    let reg := Registry.empty.run [.load "Artists = /${artist}\nar = Artists\n"]
    let ab := reg.run [.add "Copy" "/${artist}", .add "Track" "/${n}"]
    let ba := reg.run [.add "Track" "/${n}", .add "Copy" "/${artist}"]
    "Copy" ≠ "Track" ∧ "/${artist}" ≠ "Track" ∧ "/${n}" ≠ "Copy" ∧ ab ≠ ba ∧
      (reg.run [.add "Track" "/${n}"]).refusal "Copy" "/${artist}" = none ∧
      ba.names = ["Artists", "Copy", "Track", "ar"] ∧
      ba.shares "ar" "Artists" = true ∧ ba.shares "Copy" "Artists" = false := by
  intro reg ab ba
  have apart : "Copy" ≠ "Track" := by decide
  have first : "/${artist}" ≠ "Track" := by decide
  have second : "/${n}" ≠ "Copy" := by decide
  obtain ⟨accepted, _, names, _, shares⟩ := independent_additions_commute
    [.load "Artists = /${artist}\nar = Artists\n"] apart first second
  refine ⟨apart, first, second, by decide +kernel, ?_, ?_, ?_, ?_⟩
  · rw [← accepted]
    decide +kernel
  · rw [← names]
    decide +kernel
  · rw [← shares]
    decide +kernel
  · rw [← shares]
    decide +kernel

example :
    (Registry.empty.run [.add "Artists" "/${artist}", .add "ar" "Artists"]).names =
        ["Artists", "ar"] ∧
      (Registry.empty.run [.add "ar" "Artists", .add "Artists" "/${artist}"]).names =
        ["Artists"] := by decide +kernel

end MediaPaths
