import FoldAtlas.Proofs.Uri.Decoding
import Mathlib.Data.List.Forall2

/-!
# Which paths share a URI

A backslash is a separator where drives have letters, and an ordinary character of a file name
elsewhere. The URI of a path writes a slash for either, whatever the system (`ofText_pathText`). So
two paths share their URI exactly if they are alike but for the spelling of separators
(`Uri.ofPath_tells_apart`): no other byte is mistaken for another one, but every path with a
separator behind the root shares its URI with a path that spells it the other way.
-/

namespace FoldAtlas

namespace Uri

/-- A byte that separates components on some system: a slash or a backslash. -/
def IsSeparator (byte : UInt8) : Prop := byte = 0x2F ∨ byte = 0x5C

/-- Two bytes are alike if they are the same or separate components both. -/
def Alike (byte other : UInt8) : Prop := byte = other ∨ (IsSeparator byte ∧ IsSeparator other)

/-- A byte as it is written, with a slash for a backslash. -/
def slashed (byte : UInt8) : UInt8 := if byte = 0x5C then 0x2F else byte

/-- A character that separates components, spelled the other way. -/
def turned (char : Char) : Char :=
  if char = '/' then '\\' else if char = '\\' then '/' else char

variable {byte other : UInt8} {bytes others : Bytes} {path directory : FilePath}

/-! ### Alike bytes -/

/-- Alike bytes are written as the same byte, and no others are. -/
theorem slashed_eq_iff : slashed byte = slashed other ↔ Alike byte other := by
  rw [slashed, slashed, Alike, IsSeparator, IsSeparator]
  split_ifs with front back back
  · simp [front, back]
  · simp [front, back, eq_comm]
  · simp [front, back]
  · constructor
    · exact .inl
    · rintro (same | ⟨left, right⟩)
      · exact same
      · rw [left.resolve_right front, right.resolve_right back]

/-- Byte strings are written as the same bytes if they are alike byte by byte. -/
theorem map_slashed_eq_iff :
    bytes.map slashed = others.map slashed ↔ List.Forall₂ Alike bytes others := by
  rw [← List.forall₂_eq_eq_eq, List.forall₂_map_left_iff, List.forall₂_map_right_iff]
  simp only [slashed_eq_iff]

/-- Byte strings that are alike are the same if alike bytes in them are. -/
theorem eq_of_alike (alike : List.Forall₂ Alike bytes others)
    (apart : ∀ byte ∈ bytes, ∀ other ∈ others, Alike byte other → byte = other) :
    bytes = others := by
  induction alike with
  | nil => rfl
  | cons first _ ih =>
    congr 1
    · exact apart _ List.mem_cons_self _ List.mem_cons_self first
    · apply ih
      intro byte member other among
      exact apart byte (List.mem_cons_of_mem _ member) other (List.mem_cons_of_mem _ among)

/-- Different byte strings that are alike have separators in them. -/
theorem exists_separator_of_alike (alike : List.Forall₂ Alike bytes others)
    (different : bytes ≠ others) : ∃ byte ∈ bytes, IsSeparator byte := by
  by_contra none
  refine different (eq_of_alike alike ?_)
  rintro byte member other - (same | ⟨separates, -⟩)
  · exact same
  · exact absurd ⟨byte, member, separates⟩ none

/-! ### Turned separators -/

/-- A separator is written as a slash, whichever way it is spelled. -/
theorem slash_turned (char : Char) :
    (if turned char = '\\' then '/' else turned char) = if char = '\\' then '/' else char := by
  rw [turned]
  split_ifs <;> simp_all

/-- Turning the separators of a text changes it if it has one. -/
theorem map_turned_ne {chars : List Char}
    (separated : ∃ byte ∈ Bytes.ofText (String.ofList chars), IsSeparator byte) :
    chars.map turned ≠ chars := by
  intro same
  obtain ⟨byte, member, separates⟩ := separated
  have ascii : byte.toNat < 0x80 := by rcases separates with rfl | rfl <;> decide
  obtain ⟨char, among, value⟩ := Bytes.exists_of_mem_ofText ascii member
  have fixed : turned char = char :=
    List.map_inj_left.mp (same.trans (List.map_id chars).symm) char among
  rcases separates with rfl | rfl
  · obtain rfl : char = '/' := Char.toNat_inj.mp value
    cases fixed
  · obtain rfl : char = '\\' := Char.toNat_inj.mp value
    cases fixed

/-! ### The text of a path -/

/-- The text of a written path is the text with slashes for backslashes. -/
theorem pathText_ofText (text : String) :
    pathText (Bytes.ofText text) =
      String.ofList (text.toList.map fun char => if char = '\\' then '/' else char) := by
  rw [pathText, Bytes.lossyText, Bytes.text?_ofText]

/-- The text of a path that spells one is written in the bytes of the path, with slashes for
backslashes. -/
theorem ofText_pathText (spelled : (Bytes.text? path).isSome = true) :
    Bytes.ofText (pathText path) = path.map slashed := by
  obtain ⟨text, spells⟩ := Option.isSome_iff_exists.mp spelled
  have replaced := Bytes.ofText_replace '\\' '/' (by decide) (by decide) text.toList
  rw [String.ofList_toList, Bytes.ofText_of_text? spells] at replaced
  rw [← Bytes.ofText_of_text? spells, pathText_ofText, replaced, Bytes.ofText_of_text? spells]
  rfl

/-- Two paths from the root share their URI if and only if they share their text. -/
theorem ofPath_eq_iff_pathText {other around : FilePath} (absolute : path.isAbsolute = true)
    (otherAbsolute : other.isAbsolute = true) :
    ofPath path directory = ofPath other around ↔ pathText path = pathText other := by
  have itself : path.within directory = path := by rw [FilePath.within, if_pos absolute]
  have otherItself : other.within around = other := by rw [FilePath.within, if_pos otherAbsolute]
  rw [ofPath_of_absolute (by rwa [itself]), ofPath_of_absolute (by rwa [otherItself]), itself,
    otherItself, String.append_right_inj, String.ofList_inj, encode_inj, Bytes.ofText_inj]

/-- A path with a separator behind the root is not the only one with its text. -/
theorem exists_same_pathText (absolute : path.isAbsolute = true)
    (spelled : (Bytes.text? path).isSome = true)
    (separated : ∃ byte ∈ path.tail, IsSeparator byte) :
    ∃ other : FilePath, other.isAbsolute = true ∧ (Bytes.text? other).isSome = true ∧
      other ≠ path ∧ pathText other = pathText path := by
  obtain ⟨rest, rfl⟩ := FilePath.eq_cons_of_isAbsolute absolute
  obtain ⟨text, spells⟩ := Option.isSome_iff_exists.mp spelled
  have written := Bytes.ofText_of_text? spells
  obtain ⟨root, chars, rfl, value⟩ := Bytes.exists_of_ofText_eq_cons (by decide) written
  obtain rfl : root = '/' := Char.toNat_inj.mp value
  have first : Bytes.ofText (String.singleton '/') = [FilePath.separator] :=
    Bytes.ofText_singleton_of_ascii (by decide)
  have behind : Bytes.ofText (String.ofList chars) = rest := by
    rw [Bytes.ofText_cons, first] at written
    exact (List.cons.inj written).2
  refine ⟨Bytes.ofText (String.ofList ('/' :: chars.map turned)), ?_, ?_, ?_, ?_⟩
  · rw [Bytes.ofText_cons, first]
    rfl
  · rw [Bytes.text?_ofText]
    rfl
  · rw [← behind, List.tail_cons] at separated
    rw [← written, ne_eq, Bytes.ofText_inj, String.ofList_inj]
    exact fun same => map_turned_ne separated (List.cons.inj same).2
  · rw [← written, pathText_ofText, pathText_ofText]
    simp only [String.toList_ofList, List.map_cons, List.map_map]
    congr 2
    exact List.map_congr_left fun char _ => slash_turned char

/-- Paths from the root that spell texts share their URI if and only if they are alike but for the
spelling of separators: without backslashes, different paths have different URIs. But every path
with a separator behind the root shares its URI with another one, and no other path does. -/
theorem ofPath_tells_apart (absolute : path.isAbsolute = true)
    (spelled : (Bytes.text? path).isSome = true) :
    (∀ other around : FilePath, other.isAbsolute = true → (Bytes.text? other).isSome = true →
      (ofPath path directory = ofPath other around ↔ List.Forall₂ Alike path other) ∧
      (0x5C ∉ path → 0x5C ∉ other → ofPath path directory = ofPath other around →
        path = other)) ∧
    ((∃ other : FilePath, other.isAbsolute = true ∧ (Bytes.text? other).isSome = true ∧
        other ≠ path ∧ ofPath other directory = ofPath path directory) ↔
      ∃ byte ∈ path.tail, IsSeparator byte) := by
  have shared (other around : FilePath) (otherAbsolute : other.isAbsolute = true)
      (otherSpelled : (Bytes.text? other).isSome = true) :
      ofPath path directory = ofPath other around ↔ List.Forall₂ Alike path other := by
    rw [ofPath_eq_iff_pathText absolute otherAbsolute, ← Bytes.ofText_inj, ofText_pathText spelled,
      ofText_pathText otherSpelled, map_slashed_eq_iff]
  refine ⟨?_, ?_, ?_⟩
  · intro other around otherAbsolute otherSpelled
    refine ⟨shared other around otherAbsolute otherSpelled, ?_⟩
    intro plain otherPlain same
    refine eq_of_alike ((shared other around otherAbsolute otherSpelled).mp same) ?_
    intro byte member other among alike
    have left : byte ≠ 0x5C := fun backslash => plain (backslash ▸ member)
    have right : other ≠ 0x5C := fun backslash => otherPlain (backslash ▸ among)
    rcases alike with same | ⟨separates, otherSeparates⟩
    · exact same
    · rw [separates.resolve_right left, otherSeparates.resolve_right right]
  · rintro ⟨other, otherAbsolute, otherSpelled, different, same⟩
    have alike := (shared other directory otherAbsolute otherSpelled).mp same.symm
    obtain ⟨rest, rfl⟩ := FilePath.eq_cons_of_isAbsolute absolute
    obtain ⟨behind, rfl⟩ := FilePath.eq_cons_of_isAbsolute otherAbsolute
    apply exists_separator_of_alike (List.forall₂_cons.mp alike).2
    rintro rfl
    exact different rfl
  · intro separated
    obtain ⟨other, otherAbsolute, otherSpelled, different, same⟩ :=
      exists_same_pathText absolute spelled separated
    exact ⟨other, otherAbsolute, otherSpelled, different,
      (ofPath_eq_iff_pathText otherAbsolute absolute).mpr same⟩

/-- A name with a backslash shares its URI with the name of a file in a folder, and not with the
name without it. -/
theorem ofPath_of_turnedName :
    ofPath (Bytes.ofText "/\u00e9\\b") [] = ofPath (Bytes.ofText "/\u00e9/b") [] ∧
      ofPath (Bytes.ofText "/\u00e9\\b") [] ≠ ofPath (Bytes.ofText "/\u00e9b") [] := by
  have named := @ofPath_tells_apart (Bytes.ofText "/\u00e9\\b") [] (by decide)
    (by rw [Bytes.text?_ofText]; rfl)
  have folder := named.1 (Bytes.ofText "/\u00e9/b") [] (by decide) (by rw [Bytes.text?_ofText]; rfl)
  have without := named.1 (Bytes.ofText "/\u00e9b") [] (by decide) (by rw [Bytes.text?_ofText]; rfl)
  refine ⟨folder.1.mpr (map_slashed_eq_iff.mp (by decide)), ?_⟩
  intro same
  exact absurd (map_slashed_eq_iff.mpr (without.1.mp same)) (by decide)

/-- So it is not true that different paths have different URIs. -/
theorem different_paths_share_a_uri :
    ¬ ∀ path other directory : FilePath, path.isAbsolute = true → other.isAbsolute = true →
      (Bytes.text? path).isSome = true → (Bytes.text? other).isSome = true → path ≠ other →
      ofPath path directory ≠ ofPath other directory := by
  intro distinct
  refine distinct (Bytes.ofText "/a\\b") (Bytes.ofText "/a/b") [] (by decide) (by decide) ?_ ?_
    (by decide) ?_
  · rw [Bytes.text?_ofText]
    rfl
  · rw [Bytes.text?_ofText]
    rfl
  · decide +kernel

end Uri

end FoldAtlas
