import MediaPaths.Registry

/-!
Writing a virtual path and taking it apart: neither an action nor an element holds a slash, so the
pieces come back as they were. What is put behind a path and a slash leaves the action alone and
adds its own elements to those of the path.
-/
namespace MediaPaths

def virtualPath (action : String) (es : List String) : String :=
  "//" ++ action ++ String.join (es.map ("/" ++ ·))

theorem virtualPath_concat (action : String) (es : List String) (e : String) :
    virtualPath action (es ++ [e]) = virtualPath action es ++ "/" ++ e := by
  simp [virtualPath, String.append_assoc]

theorem virtualPath_concat_empty (action : String) (es : List String) :
    virtualPath action (es ++ [""]) = virtualPath action es ++ "/" := by
  rw [virtualPath_concat, String.append_empty]

/-- Texts with a slash in front of each: what stands behind the action of a path, or a rule. -/
def slashed (texts : List String) : String := String.join (texts.map ("/" ++ ·))

theorem toList_slashed (texts : List String) :
    (slashed texts).toList = texts.flatMap fun t => '/' :: t.toList := by
  simp [slashed, String.toList_join, List.flatMap_map]

theorem slashed_concat (texts : List String) (text : String) :
    slashed (texts ++ [text]) = slashed texts ++ "/" ++ text := by
  simp [slashed, String.append_assoc]

theorem splitOn_elements (e : String) (es : List String)
    (slashFree : ∀ f ∈ e :: es, '/' ∉ f.toList) :
    (e.toList ++ es.flatMap fun f => '/' :: f.toList).splitOn '/' =
      (e :: es).map String.toList := by
  induction es generalizing e with
  | nil => simpa using List.splitOn_eq_singleton (slashFree e (by simp))
  | cons f es ih =>
    have tail := ih f fun g member => slashFree g (List.mem_cons_of_mem e member)
    simp only [List.flatMap_cons, List.cons_append, List.map_cons]
    rw [List.splitOn_append_cons_self_of_not_mem (slashFree e (by simp)), tail, List.map_cons]

theorem splitOn_slashed {texts : List String} (some_text : texts ≠ [])
    (slashFree : ∀ t ∈ texts, '/' ∉ t.toList) : ∃ body, (slashed texts).toList = '/' :: body ∧
      (body.splitOn '/').map String.ofList = texts := by
  obtain ⟨first, rest, rfl⟩ := List.exists_cons_of_ne_nil some_text
  refine ⟨first.toList ++ rest.flatMap fun t => '/' :: t.toList, toList_slashed _, ?_⟩
  rw [splitOn_elements first rest slashFree]
  simp [List.map_map]

theorem slashed_splitOn (s : List Char) :
    (slashed ((s.splitOn '/').map String.ofList)).toList = '/' :: s := by
  rw [toList_slashed]
  induction s with
  | nil => simp [List.splitOn_nil]
  | cons c s ih =>
    obtain ⟨first, rest, split⟩ := List.exists_cons_of_ne_nil (List.splitOn_ne_nil '/' s)
    rw [split] at ih
    rw [List.splitOn_cons_eq_if_modifyHead, split]
    by_cases slash : c = '/' <;> simp_all

theorem elements_join (es : List String) (slashFree : ∀ e ∈ es, '/' ∉ e.toList) :
    elements (String.join (es.map ("/" ++ ·))) = es := by
  by_cases none_left : es = []
  · subst none_left
    rfl
  · obtain ⟨body, written, split⟩ := splitOn_slashed none_left slashFree
    rw [slashed] at written
    simp only [elements, written, ↓reduceIte, split]

theorem read_action {action remainder : String} (noSlash : '/' ∉ action.toList)
    (opens : ∀ c, remainder.toList.head? = some c → c = '/') :
    Address.read? ("//" ++ action ++ remainder) = some ⟨action, remainder⟩ := by
  have written : ("//" ++ action ++ remainder).toList =
      ['/', '/'] ++ (action.toList ++ remainder.toList) := by simp
  have stays : ∀ c ∈ action.toList, decide (c ≠ '/') = true := by
    intro c member
    simp only [ne_eq, decide_eq_true_eq]
    exact fun slash => noSlash (slash ▸ member)
  have stopsHere : remainder.toList.takeWhile (fun c => decide (c ≠ '/')) = [] ∧
      remainder.toList.dropWhile (fun c => decide (c ≠ '/')) = remainder.toList := by
    cases shape : remainder.toList with
    | nil => simp
    | cons c rest => simp [opens c (by simp [shape])]
  simp only [Address.read?, afterSlashes?, written, Text.afterLead?_append]
  rw [List.takeWhile_append_of_pos stays, List.dropWhile_append_of_pos stays, stopsHere.1,
    stopsHere.2, List.append_nil, String.ofList_toList, String.ofList_toList]

theorem remainder_opens {path : String} {address : Address}
    (read : Address.read? path = some address) :
    ∀ c, address.remainder.toList.head? = some c → c = '/' := by
  intro c first
  unfold Address.read? at read
  cases opened : afterSlashes? path with
  | none => simp [opened] at read
  | some rest =>
    simp only [opened, Option.some.injEq] at read
    obtain rfl := read
    rw [String.toList_ofList] at first
    have stops := List.head?_dropWhile_not (fun c => decide (c ≠ '/')) rest
    rw [first] at stops
    simpa using stops

theorem elements_slash (more : String) :
    elements ("/" ++ more) = (more.toList.splitOn '/').map String.ofList := by
  simp [elements]

theorem elements_slash_ne_nil (more : String) : elements ("/" ++ more) ≠ [] := by
  simp [elements_slash, List.splitOn_ne_nil]

theorem elements_append (path more : String) :
    elements (path ++ "/" ++ more) = elements path ++ elements ("/" ++ more) := by
  have written : (path ++ "/" ++ more).toList = path.toList ++ '/' :: more.toList := by simp
  rw [elements_slash, elements, elements, written]
  cases path.toList with
  | nil => rfl
  | cons c rest =>
    simp only [List.cons_append]
    split
    · rw [List.splitOn_append_cons_self, List.map_append]
    · rw [← List.cons_append, List.splitOn_append_cons_self, List.map_append]

theorem read?_append {path : String} {address : Address}
    (read : Address.read? path = some address) (more : String) :
    Address.read? (path ++ "/" ++ more) =
      some ⟨address.action, address.remainder ++ "/" ++ more⟩ := by
  unfold Address.read? at read ⊢
  cases opened : afterSlashes? path with
  | none => simp [opened] at read
  | some rest =>
    have written : path.toList = ['/', '/'] ++ rest := Text.afterLead?_eq_some_iff.mp opened
    have further : afterSlashes? (path ++ "/" ++ more) = some (rest ++ '/' :: more.toList) := by
      apply Text.afterLead?_eq_some_iff.mpr
      simp [written]
    simp only [opened, Option.some.injEq] at read
    obtain rfl := read
    -- The new slash stops the action at the end of the path, where it stopped before at the latest.
    have action : (rest ++ '/' :: more.toList).takeWhile (· ≠ '/') =
        rest.takeWhile (· ≠ '/') := by
      rw [List.takeWhile_append]
      split
      · rename_i whole
        rw [(List.takeWhile_prefix _).eq_of_length whole]
        simp
      · rfl
    have remainder : (rest ++ '/' :: more.toList).dropWhile (· ≠ '/') =
        rest.dropWhile (· ≠ '/') ++ '/' :: more.toList := by
      rw [List.dropWhile_append]
      split <;> simp_all
    simp only [further, action, remainder]
    simp [String.ext_iff]

theorem Registry.resolve_eq_ok_iff {reg : Registry} {path : String} {w : Walk} :
    reg.resolve path = .ok w ↔ ∃ address registered, Address.read? path = some address ∧
      reg.get? address.action = some registered ∧
      registered.rule.walk address.remainder = w := by
  unfold resolve
  cases Address.read? path with
  | none => simp
  | some address => cases found : reg.get? address.action <;> simp [found]

theorem Registry.resolve_append {reg : Registry} {path : String} {address : Address}
    {registered : Registered} (read : Address.read? path = some address)
    (found : reg.get? address.action = some registered) (more : String) :
    reg.resolve (path ++ "/" ++ more) =
      .ok (registered.rule.walk (address.remainder ++ "/" ++ more)) :=
  resolve_eq_ok_iff.mpr ⟨_, registered, read?_append read more, found, rfl⟩

theorem resolve_virtualPath {reg : Registry} {action : String} {registered : Registered}
    (found : reg.get? action = some registered) (noSlash : '/' ∉ action.toList)
    (es : List String) : reg.resolve (virtualPath action es) =
      .ok (registered.rule.walk (String.join (es.map ("/" ++ ·)))) := by
  have opens : ∀ c, (String.join (es.map ("/" ++ ·))).toList.head? = some c → c = '/' := by
    intro c first
    cases es with
    | nil => simp at first
    | cons e es => simpa [eq_comm] using first
  simp only [Registry.resolve, virtualPath, read_action noSlash opens, found]

end MediaPaths
