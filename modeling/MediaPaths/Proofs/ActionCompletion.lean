import Mathlib.Data.List.TakeWhile
import MediaPaths.Proofs.Occurrence
import MediaPaths.Proofs.OfferedActions

/-!
What completion answers for each path. Without `//` in front a path is refused. The text behind it,
up to the next slash, is the action: a registered one is walked, and for any other the registered
names are offered that go on from it, or that it accepts if it is a pattern itself.
-/
namespace MediaPaths

theorem Address.read?_eq_some_iff {path action remainder : String} :
    Address.read? path = some ⟨action, remainder⟩ ↔ path = "//" ++ action ++ remainder ∧
      '/' ∉ action.toList ∧ ∀ c, remainder.toList.head? = some c → c = '/' := by
  constructor
  · intro read
    have opens := remainder_opens read
    unfold Address.read? at read
    cases opened : afterSlashes? path with
    | none => simp [opened] at read
    | some rest =>
      simp only [opened, Option.some.injEq, Address.mk.injEq] at read
      obtain ⟨rfl, rfl⟩ := read
      have written : path.toList = ['/', '/'] ++ rest := Text.afterLead?_eq_some_iff.mp opened
      refine ⟨?_, ?_, opens⟩
      · rw [← String.toList_inj, written]
        simp [List.takeWhile_append_dropWhile]
      · rw [String.toList_ofList]
        intro slash
        simpa using List.mem_takeWhile_imp slash
  · rintro ⟨rfl, noSlash, opens⟩
    exact read_action noSlash opens

theorem opens_iff (remainder : String) :
    (∀ c, remainder.toList.head? = some c → c = '/') ↔
      remainder = "" ∨ ∃ rest, remainder = "/" ++ rest := by
  constructor
  · intro opens
    cases shape : remainder.toList with
    | nil => exact Or.inl (String.toList_eq_nil_iff.mp shape)
    | cons c rest =>
      obtain rfl : c = '/' := opens c (by rw [shape, List.head?_cons])
      refine Or.inr ⟨String.ofList rest, ?_⟩
      simp [← String.toList_inj, shape]
  · rintro (rfl | ⟨rest, rfl⟩) c first
    · simp at first
    · simpa [eq_comm] using first

theorem Address.read?_eq_none_iff {path : String} :
    Address.read? path = none ↔ ¬ ['/', '/'] <+: path.toList := by
  rw [← Text.afterLead?_eq_none_iff, ← afterSlashes?, Address.read?]
  cases afterSlashes? path <;> simp

def namePattern (action : String) : String :=
  if hasWildcard action then action else action ++ "*"

theorem accepts_of_plain_action {action : String}
    (plain : '*' ∉ action.toList ∧ '?' ∉ action.toList) {g : Glob}
    (compiled : Glob.compile (action ++ "*") = .ok g) (name : String) :
    g.accepts name = true ↔ action.toList <+: name.toList := by
  have source : g.source.toList = action.toList ++ ['*'] := by
    rw [(Glob.compile_eq_ok_iff.mp compiled).1, String.toList_append]
    rfl
  rw [g.accepts_iff_denotes, source, Glob.denotes_front_iff plain]

namespace Registry

variable {reg : Registry} {path action remainder : String}

/-- The registered names that fit, each once and in the order of their code points. -/
structure Offer (reg : Registry) (fits : String → Prop) (names : List String) : Prop where
  increasing : names.Pairwise (· < ·)
  exactly : ∀ name, name ∈ names ↔ (∃ registered, reg.get? name = some registered) ∧ fits name

theorem offer_filter (reg : Registry) {g : Glob} {fits : String → Prop}
    (same : ∀ name, g.accepts name = true ↔ fits name) :
    reg.Offer fits (reg.names.filter g.accepts) where
  increasing := reg.rules.keys_increasing.filter _
  exactly name := by rw [List.mem_filter, mem_names_iff, same]

theorem complete_unread (unread : Address.read? path = none) :
    reg.complete path = .error (.notVirtualPath path) := by
  simp [complete, resolve, unread]

theorem complete_of_known {registered : Registered}
    (read : Address.read? path = some ⟨action, remainder⟩)
    (found : reg.get? action = some registered) :
    reg.resolve path = .ok (registered.rule.walk remainder) ∧
      reg.complete path = .ok (.walk (registered.rule.walk remainder)) := by
  simp [complete, resolve, read, found]

theorem complete_of_unknown (read : Address.read? path = some ⟨action, remainder⟩)
    (unknown : reg.get? action = none) :
    reg.complete path =
      match Glob.compile (namePattern action) with
      | .ok g => .ok (.actions (reg.names.filter g.accepts))
      | .error fault => .error fault := by
  have asked : suggestionPath action = "//" ++ namePattern action := rfl
  simp only [complete, resolve, read, unknown, asked, suggest_eq]
  cases Glob.compile (namePattern action) <;> rfl

theorem offer_of_unknown (read : Address.read? path = some ⟨action, remainder⟩)
    (unknown : reg.get? action = none) {g : Glob}
    (compiled : Glob.compile (namePattern action) = .ok g) {fits : String → Prop}
    (same : ∀ name, g.accepts name = true ↔ fits name) :
    ∃ names, reg.complete path = .ok (.actions names) ∧ reg.Offer fits names := by
  refine ⟨reg.names.filter g.accepts, ?_, reg.offer_filter same⟩
  rw [complete_of_unknown read unknown, compiled]

/-- What can be refused is a path without `//`, and a pattern for names that is too large. -/
theorem fault_of_complete {fault : Fault} (failed : reg.complete path = .error fault) :
    (fault = .notVirtualPath path ∧ Address.read? path = none) ∨
      ∃ pattern, fault = .patternTooLarge pattern := by
  cases read : Address.read? path with
  | none =>
    rw [complete_unread read] at failed
    exact Or.inl ⟨(Except.error.inj failed).symm, rfl⟩
  | some address =>
    refine Or.inr ?_
    cases found : reg.get? address.action with
    | some registered =>
      rw [(complete_of_known read found).2] at failed
      exact absurd failed (by simp)
    | none =>
      rw [complete_of_unknown read found] at failed
      cases compiled : Glob.compile (namePattern address.action) with
      | ok g => simp [compiled] at failed
      | error cause =>
        obtain rfl : cause = fault := by simpa [compiled] using failed
        exact ⟨_, (Glob.compile_eq_error_iff.mp compiled).2⟩

end Registry

theorem action_completion (reg : Registry) (path : String) :
    ((∃ p, reg.complete path = .error (.notVirtualPath p)) ↔ ¬ ['/', '/'] <+: path.toList) ∧
    (∀ p, reg.complete path = .error (.notVirtualPath p) → p = path) ∧
    (∀ action, reg.complete path ≠ .error (.unknownAction action)) ∧
    (['/', '/'] <+: path.toList → ∃ action remainder, path = "//" ++ action ++ remainder ∧
      '/' ∉ action.toList ∧ (remainder = "" ∨ ∃ rest, remainder = "/" ++ rest) ∧
      (∀ registered, reg.get? action = some registered →
        ∃ w, reg.resolve path = .ok w ∧ reg.complete path = .ok (.walk w)) ∧
      (reg.get? action = none → '*' ∉ action.toList ∧ '?' ∉ action.toList →
        ∀ g, Glob.compile (action ++ "*") = .ok g →
          ∃ names, reg.complete path = .ok (.actions names) ∧
            reg.Offer (fun name => action.toList <+: name.toList) names) ∧
      (reg.get? action = none → '*' ∈ action.toList ∨ '?' ∈ action.toList →
        ∀ g, Glob.compile action = .ok g →
          ∃ names, reg.complete path = .ok (.actions names) ∧
            reg.Offer (fun name => g.accepts name = true) names)) := by
  refine ⟨?_, ?_, ?_, ?_⟩
  · rw [← Address.read?_eq_none_iff]
    constructor
    · rintro ⟨p, failed⟩
      rcases Registry.fault_of_complete failed with ⟨_, unread⟩ | ⟨pattern, tooLarge⟩
      · exact unread
      · cases tooLarge
    · intro unread
      exact ⟨path, Registry.complete_unread unread⟩
  · intro p failed
    rcases Registry.fault_of_complete failed with ⟨same, _⟩ | ⟨pattern, tooLarge⟩
    · exact Fault.notVirtualPath.inj same
    · cases tooLarge
  · intro action failed
    rcases Registry.fault_of_complete failed with ⟨other, _⟩ | ⟨pattern, other⟩ <;> cases other
  · intro leads
    have opened : Address.read? path ≠ none := fun unread =>
      Address.read?_eq_none_iff.mp unread leads
    obtain ⟨⟨action, remainder⟩, read⟩ := Option.ne_none_iff_exists'.mp opened
    obtain ⟨written, noSlash, opens⟩ := Address.read?_eq_some_iff.mp read
    refine ⟨action, remainder, written, noSlash, (opens_iff remainder).mp opens, ?_, ?_, ?_⟩
    · intro registered found
      exact ⟨_, Registry.complete_of_known read found⟩
    · intro unknown plain g compiled
      have pattern : namePattern action = action ++ "*" := by
        simp [namePattern, (no_wildcard_iff action).mpr plain]
      exact Registry.offer_of_unknown read unknown (pattern ▸ compiled)
        (accepts_of_plain_action plain compiled)
    · intro unknown wild g compiled
      have pattern : namePattern action = action := if_pos ((hasWildcard_iff action).mpr wild)
      exact Registry.offer_of_unknown read unknown (pattern.symm ▸ compiled) fun _ => Iff.rfl

example :
    Sample.shelves.complete "//*r?*/x" = .ok (.actions ["Art/new", "Artists"]) ∧
      Sample.shelves.complete "//" = .ok (.actions ["Air", "Art/new", "Artists"]) ∧
      Sample.shelves.complete "/Air" = .error (.notVirtualPath "/Air") := by decide +kernel

end MediaPaths
