import MediaPaths.Proofs.Conjunction

/-!
Comparing a value as it is gives the same answers as matching it as a pattern, for the values that
are compared so. These are the values without wildcards, which a scan of the bytes in UTF-8 finds
out: a wildcard is one byte, and no other character has that byte among its own
(`Features.scanBytes_eq`). A pattern without wildcards stands for its own text and nothing else; any
other pattern stands for a second text as well (`Glob.denotes_other_iff`).
-/
namespace MediaPaths

theorem beyond_of_mem_utf8EncodeChar {c : Char} (beyond : 127 < c.toNat) {byte : UInt8}
    (member : byte ∈ String.utf8EncodeChar c) : 127 < byte.toNat := by
  have code : c.val.toNat = c.toNat := rfl
  unfold String.utf8EncodeChar at member
  simp only [code, Nat.not_le.mpr beyond, ↓reduceIte] at member
  split at member
  · simp only [List.mem_cons, List.not_mem_nil, or_false] at member
    rcases member with rfl | rfl <;> rw [UInt8.toNat_ofNat'] <;> omega
  · split at member
    · simp only [List.mem_cons, List.not_mem_nil, or_false] at member
      rcases member with rfl | rfl | rfl <;> rw [UInt8.toNat_ofNat'] <;> omega
    · simp only [List.mem_cons, List.not_mem_nil, or_false] at member
      rcases member with rfl | rfl | rfl | rfl <;> rw [UInt8.toNat_ofNat'] <;> omega

theorem mem_utf8EncodeChar_iff {mark : Char} (ascii : mark.toNat ≤ 127) (c : Char) :
    UInt8.ofNat mark.toNat ∈ String.utf8EncodeChar c ↔ c = mark := by
  have own : (UInt8.ofNat mark.toNat).toNat = mark.toNat := by
    rw [UInt8.toNat_ofNat']
    omega
  by_cases narrow : c.toNat ≤ 127
  · have single : String.utf8EncodeChar c = [UInt8.ofNat c.toNat] := if_pos narrow
    rw [single, List.mem_singleton, ← UInt8.toNat_inj, own, UInt8.toNat_ofNat', ← Char.toNat_inj]
    omega
  · constructor
    · intro member
      have beyond := beyond_of_mem_utf8EncodeChar (by omega) member
      omega
    · intro same
      subst same
      exact absurd ascii narrow

theorem utf8_eq_flatMap (s : String) :
    s.toUTF8.data.toList = s.toList.flatMap String.utf8EncodeChar := by
  have encoded : s.toUTF8 = s.toList.utf8Encode := by
    rw [String.toUTF8_eq_toByteArray, ← String.toByteArray_ofList, String.ofList_toList]
  rw [encoded, List.utf8Encode, List.toList_data_toByteArray]

theorem contains_utf8 (mark : Char) (ascii : mark.toNat ≤ 127) (s : String) :
    s.toUTF8.data.toList.contains (UInt8.ofNat mark.toNat) = s.toList.contains mark := by
  rw [utf8_eq_flatMap, Bool.eq_iff_iff, List.contains_iff_mem, List.contains_iff_mem]
  simp only [List.mem_flatMap, mem_utf8EncodeChar_iff ascii, exists_eq_right]

namespace Features

def noteByte (f : Features) (byte : UInt8) : Features :=
  if byte = 0x2a then { f with hasStar := true }
  else if byte = 0x3f then { f with hasQuestion := true }
  else f

def scanBytes (element : String) : Features :=
  element.toUTF8.data.toList.foldl noteByte ⟨element.isEmpty, false, false⟩

theorem foldl_noteByte (bytes : List UInt8) (f : Features) :
    bytes.foldl noteByte f = ⟨f.isEmpty, f.hasStar || bytes.contains 0x2a,
      f.hasQuestion || bytes.contains 0x3f⟩ := by
  induction bytes generalizing f with
  | nil => simp
  | cons byte bytes ih =>
    rw [List.foldl_cons, ih, noteByte]
    by_cases star : byte = 0x2a
    · simp [star]
    · by_cases question : byte = 0x3f
      · simp [question]
      · simp [star, question, Ne.symm star, Ne.symm question]

theorem scanBytes_eq (element : String) : scanBytes element = scan element := by
  have star := contains_utf8 '*' (by decide) element
  have question := contains_utf8 '?' (by decide) element
  have empty : element.isEmpty = element.toList.isEmpty := by
    rw [Bool.eq_iff_iff, String.isEmpty_iff, List.isEmpty_iff, String.toList_eq_nil_iff]
  rw [scanBytes, foldl_noteByte, scan, empty, ← star, ← question]
  rfl

end Features

namespace Glob

theorem denotes_plain_iff {p s : List Char} (plain : '*' ∉ p ∧ '?' ∉ p) :
    Denotes p s ↔ s = p := by
  constructor
  · intro denotes
    induction denotes with
    | nil => rfl
    | star run tail ih => simp at plain
    | any d tail ih => simp at plain
    | same star question tail ih =>
      simp only [List.mem_cons, not_or] at plain
      rw [ih ⟨plain.1.2, plain.2.2⟩]
  · intro same
    exact same ▸ denotes_self p

/-- One wildcard gives room for a second text: a star for two, a question mark for a letter. -/
theorem exists_denotes_other {p : List Char} (wild : '*' ∈ p ∨ '?' ∈ p) :
    ∃ s, s ≠ p ∧ Denotes p s := by
  induction p with
  | nil => simp at wild
  | cons c p ih =>
    by_cases star : c = '*'
    · subst star
      refine ⟨['*', '*'] ++ p, ?_, Denotes.star _ (denotes_self p)⟩
      intro same
      simpa using congrArg List.length same
    · by_cases question : c = '?'
      · subst question
        exact ⟨'a' :: p, by simp, Denotes.any 'a' (denotes_self p)⟩
      · have later : '*' ∈ p ∨ '?' ∈ p := by
          simpa [Ne.symm star, Ne.symm question] using wild
        obtain ⟨s, other, denotes⟩ := ih later
        exact ⟨c :: s, by simpa using other, Denotes.same star question denotes⟩

theorem denotes_other_iff {p : List Char} :
    (∃ s, s ≠ p ∧ Denotes p s) ↔ '*' ∈ p ∨ '?' ∈ p := by
  constructor
  · rintro ⟨s, other, denotes⟩
    by_contra plain
    exact other ((denotes_plain_iff (not_or.mp plain)).mp denotes)
  · exact exists_denotes_other

theorem accepts_plain_iff {g : Glob} (plain : hasWildcard g.source = false) (held : String) :
    g.accepts held = true ↔ held = g.source := by
  rw [g.accepts_iff_denotes, denotes_plain_iff ((no_wildcard_iff _).mp plain), String.toList_inj]

theorem accepts_other_iff (g : Glob) :
    (∃ other, other ≠ g.source ∧ g.accepts other = true) ↔ hasWildcard g.source = true := by
  rw [hasWildcard_iff, ← denotes_other_iff]
  constructor
  · rintro ⟨other, differs, accepted⟩
    refine ⟨other.toList, ?_, (g.accepts_iff_denotes other).mp accepted⟩
    exact fun same => differs (String.toList_inj.mp same)
  · rintro ⟨s, differs, denotes⟩
    refine ⟨String.ofList s, ?_, ?_⟩
    · intro same
      exact differs (by rw [← same, String.toList_ofList])
    · rw [g.accepts_iff_denotes, String.toList_ofList]
      exact denotes

end Glob

theorem Filter.condition_agrees {g : Glob} (compiled : Glob.compile g.source = .ok g)
    (field : String) : ∃ c, condition field g.source = .ok c ∧ ∀ row : Row,
      c.accepts row = true ↔ ∃ held, row.get? field = some held ∧ g.accepts held = true := by
  cases wild : hasWildcard g.source with
  | true =>
    refine ⟨.matching field g, by simp [condition, wild, compiled], ?_⟩
    intro row
    simp [accepts, Option.any_eq_true]
  | false =>
    refine ⟨_, condition_of_plain field wild, ?_⟩
    intro row
    simp [accepts, Option.any_eq_true, Glob.accepts_plain_iff wild]

theorem exact_comparison_agrees {value : String} {g : Glob}
    (compiled : Glob.compile value = .ok g) (field : String) :
    (∃ c, Filter.condition field value = .ok c ∧ ∀ row : Row, c.accepts row = true ↔
      ∃ held, row.get? field = some held ∧ g.accepts held = true) ∧
    Features.scanBytes value = Features.scan value ∧
    g.accepts value = true ∧
    ((∃ other, other ≠ value ∧ g.accepts other = true) ↔ hasWildcard value = true) := by
  obtain ⟨rfl, _⟩ := Glob.compile_eq_ok_iff.mp compiled
  exact ⟨Filter.condition_agrees compiled field, Features.scanBytes_eq _, g.accepts_source,
    g.accepts_other_iff⟩

namespace Sample

/-- The code points end in the bytes of the two wildcards. -/
def latin : Glob := ⟨"ĪĿ", "ĪĿ".toList.splitOn '*', rfl, by decide⟩

end Sample

theorem exact_comparison_agrees_latin :
    Glob.compile "ĪĿ" = .ok Sample.latin ∧ hasWildcard "ĪĿ" = false ∧
      (∃ c, Filter.condition "artist" "ĪĿ" = .ok c ∧
        c.accepts (Table.ofList [("artist", "ĪĿ")]) = true) ∧
      (¬ ∃ other, other ≠ "ĪĿ" ∧ Sample.latin.accepts other = true) ∧
      Glob.compile "**?[a.b]$" = .ok Sample.tagged ∧
      ∃ other, other ≠ "**?[a.b]$" ∧ Sample.tagged.accepts other = true := by
  have compiled : Glob.compile "ĪĿ" = .ok Sample.latin :=
    Glob.compile_eq_ok_iff.mpr ⟨rfl, Sample.latin.fits⟩
  have compiled' : Glob.compile "**?[a.b]$" = .ok Sample.tagged :=
    Glob.compile_eq_ok_iff.mpr ⟨rfl, Sample.tagged.fits⟩
  have plain : hasWildcard "ĪĿ" = false := by decide
  obtain ⟨⟨c, condition, agrees⟩, _, own, other_iff⟩ := exact_comparison_agrees compiled "artist"
  obtain ⟨_, _, _, other_iff'⟩ := exact_comparison_agrees compiled' "artist"
  refine ⟨compiled, plain, ⟨c, condition, ?_⟩, ?_, compiled', ?_⟩
  · exact (agrees _).mpr ⟨"ĪĿ", by decide, own⟩
  · rw [other_iff, plain]
    decide
  · exact other_iff'.mpr (by decide)

end MediaPaths
