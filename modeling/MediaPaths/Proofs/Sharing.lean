import Mathlib.Data.List.Nodup
import MediaPaths.Proofs.RegistryRuns

/-!
Aliases are exactly the sharing. Every name of a registry goes back, over the names it is an alias
of, to one root that was added with a template of its own; two names share their rule exactly when
they have the same root, and then their paths have the same walks.
-/
namespace MediaPaths

/-- The root of a name, by the additions that succeeded: the name itself if it was added with a
template, else the root of its target. -/
inductive RootOf (log : List (String × String)) : String → String → Prop where
  | template {name spec : String} (member : (name, spec) ∈ log) (slash : isTemplate spec = true) :
      RootOf log name name
  | aliased {name target root : String} (member : (name, target) ∈ log)
      (plain : isTemplate target = false) (further : RootOf log target root) :
      RootOf log name root

def IsRoot (log : List (String × String)) (name : String) : Prop :=
  ∃ spec, (name, spec) ∈ log ∧ isTemplate spec = true

section Roots

variable {log : List (String × String)} {name root : String}

theorem RootOf.isRoot (path : RootOf log name root) : IsRoot log root := by
  induction path with
  | template member slash => exact ⟨_, member, slash⟩
  | aliased _ _ _ ih => exact ih

theorem RootOf.mem (path : RootOf log name root) : name ∈ log.map Prod.fst := by
  cases path with
  | template member _ => exact List.mem_map.mpr ⟨_, member, rfl⟩
  | aliased member _ _ => exact List.mem_map.mpr ⟨_, member, rfl⟩

theorem RootOf.mono {longer : List (String × String)} (more : log ⊆ longer)
    (path : RootOf log name root) : RootOf longer name root := by
  induction path with
  | template member slash => exact RootOf.template (more member) slash
  | aliased member plain _ ih => exact RootOf.aliased (more member) plain ih

theorem RootOf.unique (once : (log.map Prod.fst).Nodup) (path : RootOf log name root)
    {other : String} (path' : RootOf log name other) : other = root := by
  have spec_eq : ∀ {n s s' : String}, (n, s) ∈ log → (n, s') ∈ log → s = s' := by
    intro n s s' member member'
    exact congrArg Prod.snd (List.inj_on_of_nodup_map once member member' rfl)
  induction path with
  | template member slash =>
    cases path' with
    | template => rfl
    | aliased member' plain _ =>
      rw [spec_eq member member', plain] at slash
      cases slash
  | aliased member plain _ ih =>
    cases path' with
    | template member' slash =>
      rw [spec_eq member' member, plain] at slash
      cases slash
    | aliased member' _ further =>
      obtain rfl := spec_eq member member'
      exact ih further

end Roots

namespace Registry

/-- What the additions so far say about a registry. The serial numbers are below the number of names,
so the next template has a new one. -/
structure Traced (reg : Registry) (log : List (String × String)) : Prop where
  once : (log.map Prod.fst).Nodup
  named : ∀ name ∈ log.map Prod.fst, ∃ registered, reg.get? name = some registered
  rooted : ∀ name registered, reg.get? name = some registered →
    ∃ root, RootOf log name root ∧ reg.get? root = some registered
  below : ∀ name registered, reg.get? name = some registered → registered.serial < reg.size
  apart : ∀ a b x y, IsRoot log a → IsRoot log b → reg.get? a = some x → reg.get? b = some y →
    x.serial = y.serial → a = b

theorem traced_empty : empty.Traced [] where
  once := List.nodup_nil
  named := by simp
  rooted := by simp
  below := by simp
  apart := by simp

section Step

variable {reg reg' : Registry} {log : List (String × String)} {name spec : String}

theorem Traced.not_mem (traced : reg.Traced log) (fresh : reg.get? name = none) :
    name ∉ log.map Prod.fst := by
  intro member
  obtain ⟨registered, found⟩ := traced.named name member
  rw [fresh] at found
  cases found

theorem isRoot_of_append {other : String} (differs : other ≠ name)
    (root : IsRoot (log ++ [(name, spec)]) other) : IsRoot log other := by
  obtain ⟨spec', member, slash⟩ := root
  rcases List.mem_append.mp member with before | last
  · exact ⟨spec', before, slash⟩
  · simp [differs] at last

/-- A new root has the number of names before it for its serial number. -/
theorem Traced.serial_of_new_root (traced : reg.Traced log) (added : reg.Added name spec reg')
    (root : IsRoot (log ++ [(name, spec)]) name) {x : Registered}
    (found : reg'.get? name = some x) : x.serial = reg.size := by
  have absent := traced.not_mem added.fresh
  obtain ⟨spec', member, slash⟩ := root
  have own : spec' = spec := by
    rcases List.mem_append.mp member with before | last
    · exact absurd (List.mem_map.mpr ⟨_, before, rfl⟩) absent
    · simpa using last
  subst own
  cases added with
  | template fresh _ compiled =>
    obtain rfl : _ = x := by simpa using found
    rfl
  | aliased fresh plain target =>
    rw [plain] at slash
    cases slash

theorem Traced.once_step (traced : reg.Traced log) (added : reg.Added name spec reg') :
    ((log ++ [(name, spec)]).map Prod.fst).Nodup := by
  have absent := traced.not_mem added.fresh
  rw [List.map_append, List.nodup_append]
  refine ⟨traced.once, by simp, ?_⟩
  intro a before b last same
  obtain rfl : b = name := by simpa using last
  exact absent (same ▸ before)

theorem Traced.named_step (traced : reg.Traced log) (added : reg.Added name spec reg') :
    ∀ other ∈ (log ++ [(name, spec)]).map Prod.fst,
      ∃ registered, reg'.get? other = some registered := by
  intro other known
  rw [List.map_append, List.mem_append] at known
  rcases known with before | last
  · obtain ⟨registered, found⟩ := traced.named other before
    exact ⟨registered, added.keeps other registered found⟩
  · obtain rfl : other = name := by simpa using last
    exact added.get?_own

theorem Traced.rooted_step (traced : reg.Traced log) (added : reg.Added name spec reg') :
    ∀ other registered, reg'.get? other = some registered →
      ∃ root, RootOf (log ++ [(name, spec)]) other root ∧ reg'.get? root = some registered := by
  have more : log ⊆ log ++ [(name, spec)] := List.subset_append_left _ _
  have member : (name, spec) ∈ log ++ [(name, spec)] := by simp
  have kept := added.keeps
  intro other registered found
  by_cases own : other = name
  · subst own
    cases added with
    | template fresh slash compiled => exact ⟨other, RootOf.template member slash, found⟩
    | aliased fresh plain target =>
      obtain rfl : _ = registered := by simpa using found
      obtain ⟨root, path, at_root⟩ := traced.rooted spec _ target
      exact ⟨root, RootOf.aliased member plain (path.mono more), kept root _ at_root⟩
  · rw [added.get?_other own] at found
    obtain ⟨root, path, at_root⟩ := traced.rooted other registered found
    exact ⟨root, path.mono more, kept root registered at_root⟩

theorem Traced.below_step (traced : reg.Traced log) (added : reg.Added name spec reg') :
    ∀ other registered, reg'.get? other = some registered →
      registered.serial < reg'.size := by
  intro other registered found
  rw [added.size]
  by_cases own : other = name
  · subst own
    cases added with
    | template fresh slash compiled =>
      obtain rfl : _ = registered := by simpa using found
      exact Nat.lt_succ_self reg.size
    | aliased fresh plain target =>
      obtain rfl : _ = registered := by simpa using found
      exact Nat.lt_succ_of_lt (traced.below spec _ target)
  · rw [added.get?_other own] at found
    exact Nat.lt_succ_of_lt (traced.below other registered found)

theorem Traced.apart_step (traced : reg.Traced log) (added : reg.Added name spec reg') :
    ∀ a b x y, IsRoot (log ++ [(name, spec)]) a → IsRoot (log ++ [(name, spec)]) b →
      reg'.get? a = some x → reg'.get? b = some y → x.serial = y.serial → a = b := by
  intro a b x y root_a root_b found_a found_b same
  by_cases new_a : a = name
  · by_cases new_b : b = name
    · rw [new_a, new_b]
    · -- The serial number of the new root is above those of all others.
      subst new_a
      have number := traced.serial_of_new_root added root_a found_a
      rw [added.get?_other new_b] at found_b
      have before := traced.below b y found_b
      omega
  · rw [added.get?_other new_a] at found_a
    by_cases new_b : b = name
    · subst new_b
      have number := traced.serial_of_new_root added root_b found_b
      have before := traced.below a x found_a
      omega
    · rw [added.get?_other new_b] at found_b
      exact traced.apart a b x y (isRoot_of_append new_a root_a) (isRoot_of_append new_b root_b)
        found_a found_b same

theorem Traced.step (traced : reg.Traced log) (added : reg.Added name spec reg') :
    reg'.Traced (log ++ [(name, spec)]) where
  once := traced.once_step added
  named := traced.named_step added
  rooted := traced.rooted_step added
  below := traced.below_step added
  apart := traced.apart_step added

end Step

def logOf (calls : List Call) : List (String × String) :=
  empty.granted (calls.flatMap Call.additions)

theorem traced_run (calls : List Call) : (empty.run calls).Traced (logOf calls) := by
  rw [run_eq]
  exact granted_induction (motive := Traced) (fun _ _ _ _ _ traced added => traced.step added) []
    traced_empty _

section Traced

variable {reg : Registry} {log : List (String × String)} {a b : String}

theorem Traced.found (traced : reg.Traced log) {root : String} (path : RootOf log a root) :
    ∃ registered, reg.get? a = some registered ∧ reg.get? root = some registered := by
  obtain ⟨registered, found⟩ := traced.named a path.mem
  obtain ⟨root', path', at_root⟩ := traced.rooted a registered found
  obtain rfl := path.unique traced.once path'
  exact ⟨registered, found, at_root⟩

theorem Traced.shares_iff (traced : reg.Traced log) {rootA rootB : String}
    (pathA : RootOf log a rootA) (pathB : RootOf log b rootB) :
    reg.shares a b = true ↔ rootA = rootB := by
  obtain ⟨x, found_a, at_a⟩ := traced.found pathA
  obtain ⟨y, found_b, at_b⟩ := traced.found pathB
  have shared : reg.shares a b = true ↔ x.serial = y.serial := by
    simp [shares, found_a, found_b]
  rw [shared]
  constructor
  · intro same
    exact traced.apart rootA rootB x y pathA.isRoot pathB.isRoot at_a at_b same
  · intro same
    subst same
    rw [Option.some.inj (at_a.symm.trans at_b)]

theorem resolve_action {registered : Registered} (found : reg.get? a = some registered)
    (noSlash : '/' ∉ a.toList) {path : String} {address : Address}
    (read : Address.read? path = some address) :
    reg.resolve ("//" ++ a ++ address.remainder) =
      .ok (registered.rule.walk address.remainder) :=
  resolve_eq_ok_iff.mpr
    ⟨⟨a, address.remainder⟩, registered, read_action noSlash (remainder_opens read), found, rfl⟩

end Traced

end Registry

theorem shares_iff_same_root (calls : List Call) :
    let reg := Registry.empty.run calls
    let log := Registry.logOf calls
    (∀ name, reg.contains name = true ↔ ∃ spec, (name, spec) ∈ log) ∧
    (∀ name, reg.contains name = true → ∃ root, RootOf log name root ∧
      reg.contains root = true ∧ ∀ other, RootOf log name other → other = root) ∧
    (∀ a b rootA rootB, RootOf log a rootA → RootOf log b rootB →
      (reg.shares a b = true ↔ rootA = rootB)) ∧
    (∀ a b specA specB, (a, specA) ∈ log → (b, specB) ∈ log → isTemplate specA = true →
      isTemplate specB = true → a ≠ b → reg.shares a b = false) ∧
    ∀ a b root, RootOf log a root → RootOf log b root → '/' ∉ a.toList → '/' ∉ b.toList →
      ∀ path address, Address.read? path = some address →
        ∃ w, reg.resolve ("//" ++ a ++ address.remainder) = .ok w ∧
          reg.resolve ("//" ++ b ++ address.remainder) = .ok w := by
  intro reg log
  have traced : reg.Traced log := Registry.traced_run calls
  refine ⟨?_, ?_, ?_, ?_, ?_⟩
  · intro name
    rw [Registry.contains_eq, Option.isSome_iff_exists]
    constructor
    · intro found
      obtain ⟨registered, found⟩ := found
      obtain ⟨root, path, _⟩ := traced.rooted name registered found
      obtain ⟨p, member, rfl⟩ := List.mem_map.mp path.mem
      exact ⟨p.2, member⟩
    · intro added
      obtain ⟨spec, member⟩ := added
      exact traced.named name (List.mem_map.mpr ⟨_, member, rfl⟩)
  · intro name known
    obtain ⟨registered, found⟩ := Option.isSome_iff_exists.mp known
    obtain ⟨root, path, at_root⟩ := traced.rooted name registered found
    refine ⟨root, path, ?_, fun other path' => path.unique traced.once path'⟩
    rw [Registry.contains_eq, at_root, Option.isSome_some]
  · intro a b rootA rootB pathA pathB
    exact traced.shares_iff pathA pathB
  · intro a b specA specB memberA memberB slashA slashB differs
    rw [← Bool.not_eq_true,
      traced.shares_iff (RootOf.template memberA slashA) (RootOf.template memberB slashB)]
    exact differs
  · intro a b root pathA pathB noSlashA noSlashB path address read
    obtain ⟨x, foundA, at_root⟩ := traced.found pathA
    obtain ⟨y, foundB, at_root'⟩ := traced.found pathB
    obtain rfl := Option.some.inj (at_root.symm.trans at_root')
    exact ⟨_, Registry.resolve_action foundA noSlashA read,
      Registry.resolve_action foundB noSlashB read⟩

example :
    let calls := [.add "Artists" "/${artist}", .load "ar = Artists\nx = Nope\nall = ar\n",
      .add "Copy" "/${artist}", .add "ar" "Copy"]
    Registry.logOf calls =
        [("Artists", "/${artist}"), ("ar", "Artists"), ("all", "ar"), ("Copy", "/${artist}")] ∧
      (Registry.empty.run calls).shares "all" "Artists" = true ∧
      (Registry.empty.run calls).shares "Copy" "Artists" = false := by
  decide +kernel

end MediaPaths
