import MediaPaths.Browse
import MediaPaths.Proofs.Position
import MediaPaths.Proofs.RegistryRuns

/-!
Completion of an action offers registered names, and what is offered is meant to be put behind `//`.
A name without a slash is then read as it is, so it is found again. A name with a slash is read as
the action in front of its first slash and leads to the rule of that action, if there is one.
-/
namespace MediaPaths

namespace Registry

variable {reg : Registry} {path pattern : String} {names : List String}

theorem suggest_eq (reg : Registry) (pattern : String) : reg.suggest ("//" ++ pattern) =
    match Glob.compile pattern with
    | .ok glob => .ok (reg.names.filter glob.accepts)
    | .error fault => .error fault := by
  have opened : afterSlashes? ("//" ++ pattern) = some pattern.toList := by
    rw [afterSlashes?, String.toList_append]
    exact Text.afterLead?_append _ _
  simp only [suggest, opened, String.ofList_toList]
  cases Glob.compile pattern <;> rfl

theorem suggest_eq_ok_iff : reg.suggest ("//" ++ pattern) = .ok names ↔
    ∃ glob, Glob.compile pattern = .ok glob ∧ reg.names.filter glob.accepts = names := by
  rw [suggest_eq]
  cases Glob.compile pattern <;> simp

/-- Names are offered in place of an unknown action only: the registered ones that its glob
accepts. -/
theorem complete_eq_actions_iff : reg.complete path = .ok (.actions names) ↔
    ∃ address, Address.read? path = some address ∧ reg.get? address.action = none ∧
      reg.suggest (suggestionPath address.action) = .ok names := by
  unfold complete resolve
  cases read : Address.read? path with
  | none => simp
  | some address =>
    cases found : reg.get? address.action with
    | some registered => simp [found]
    | none => cases suggested : reg.suggest (suggestionPath address.action) <;> simp [found, suggested]

theorem registered_of_offered (offered : reg.complete path = .ok (.actions names)) {name : String}
    (member : name ∈ names) : ∃ registered, reg.get? name = some registered := by
  obtain ⟨address, _, _, suggested⟩ := complete_eq_actions_iff.mp offered
  obtain ⟨glob, _, rfl⟩ := suggest_eq_ok_iff.mp suggested
  exact (reg.mem_names_iff name).mp (List.mem_filter.mp member).1

theorem resolve_name {name : String} {registered : Registered}
    (found : reg.get? name = some registered) (noSlash : '/' ∉ name.toList) :
    reg.resolve ("//" ++ name) = .ok (registered.rule.walk "") := by
  simpa [virtualPath] using resolve_virtualPath found noSlash []

/-- A name with a slash is never looked up as a whole. -/
theorem resolve_nested_name (reg : Registry) {action : String} (noSlash : '/' ∉ action.toList)
    (rest : String) : reg.resolve ("//" ++ (action ++ "/" ++ rest)) =
      match reg.get? action with
      | some registered => .ok (registered.rule.walk ("/" ++ rest))
      | none => .error (.unknownAction action) := by
  have opens : ∀ c, ("/" ++ rest).toList.head? = some c → c = '/' := by
    intro c first
    simpa [eq_comm] using first
  have read : Address.read? ("//" ++ (action ++ "/" ++ rest)) = some ⟨action, "/" ++ rest⟩ := by
    simpa only [String.append_assoc] using read_action noSlash opens
  simp only [resolve, read]
  cases reg.get? action <;> rfl

end Registry

theorem offered_actions_resolve (reg : Registry) (path : String) (names : List String)
    (offered : reg.complete path = .ok (.actions names)) :
    ∀ name ∈ names, ∃ registered, reg.get? name = some registered ∧
      ('/' ∉ name.toList →
        ∃ w, reg.resolve ("//" ++ name) = .ok w ∧ w.rule = registered.rule) ∧
      ∀ action rest, name = action ++ "/" ++ rest → '/' ∉ action.toList →
        reg.resolve ("//" ++ name) =
          match reg.get? action with
          | some other => .ok (other.rule.walk ("/" ++ rest))
          | none => .error (.unknownAction action) := by
  intro name member
  obtain ⟨registered, found⟩ := Registry.registered_of_offered offered member
  refine ⟨registered, found, ?_, ?_⟩
  · intro noSlash
    exact ⟨_, Registry.resolve_name found noSlash, registered.rule.rule_walk ""⟩
  · rintro action rest rfl noSlash
    exact reg.resolve_nested_name noSlash rest

namespace Sample

def shelves : Registry :=
  Registry.empty.run [.add "Artists" "/${artist}", .load "Air = Artists\n",
    .add "Art/new" "/${n} - ${title}"]

end Sample

theorem offered_actions_resolve_alias :
    Sample.shelves.complete "//A" = .ok (.actions ["Air", "Art/new", "Artists"]) ∧
      ∃ registered, Sample.shelves.get? "Air" = some registered ∧
        registered.rule.spec = "/${artist}" ∧
        ∃ w, Sample.shelves.resolve "//Air" = .ok w ∧ w.rule = registered.rule := by
  have offered : Sample.shelves.complete "//A" =
      .ok (.actions ["Air", "Art/new", "Artists"]) := by decide +kernel
  obtain ⟨registered, found, resolves, _⟩ :=
    offered_actions_resolve Sample.shelves "//A" _ offered "Air" (by simp)
  have spec : (Sample.shelves.get? "Air").map (·.rule.spec) = some "/${artist}" := by
    decide +kernel
  rw [found] at spec
  exact ⟨offered, registered, found, Option.some.inj spec, resolves (by decide)⟩

theorem offered_actions_resolve_fails_nested :
    let reg := Registry.empty.run [.add "a/b" "/${x}"]
    reg.complete "//a" = .ok (.actions ["a/b"]) ∧
      ¬ ∀ name ∈ ["a/b"], ∃ registered w, reg.get? name = some registered ∧
        reg.resolve ("//" ++ name) = .ok w ∧ w.rule = registered.rule := by
  intro reg
  have failed : reg.resolve "//a/b" = .error (.unknownAction "a") := by decide +kernel
  refine ⟨by decide +kernel, ?_⟩
  intro claimed
  obtain ⟨registered, w, _, resolved, _⟩ := claimed "a/b" (by simp)
  exact absurd (failed.symm.trans resolved) (by simp)

end MediaPaths
