import FoldAtlas.Uri
import FoldAtlas.Proofs.Text.Characters

/-!
# Which path a URI names

The URI of a path can be read back, and what is read is the text of the path. One byte is either
written as the character of its value or as an escape, and reading what it is written as gives the
byte whatever stands behind it (`Uri.decode?_encodeByte_append`); that a URI names one text
(`Uri.decode?_encode`) follows byte by byte, although the pieces are not equally long. The text of
a path from the root begins with `/`, which is never escaped, so nothing is put before it
(`Uri.ofPath_of_absolute`).
-/

namespace FoldAtlas

namespace FilePath

variable {path directory : FilePath}

/-- A path is seen from the root if it or the directory it is seen from begins there. -/
theorem isAbsolute_within (absolute : path.isAbsolute = true ∨ directory.isAbsolute = true) :
    (path.within directory).isAbsolute = true := by
  by_cases itself : path.isAbsolute = true
  · rwa [within, if_pos itself]
  · have around : directory.isAbsolute = true := absolute.resolve_left itself
    rw [within, if_neg itself]
    cases directory with
    | nil => cases around
    | cons byte bytes => split <;> simpa [isAbsolute] using around

/-- A path from the root begins with the separator. -/
theorem eq_cons_of_isAbsolute (absolute : path.isAbsolute = true) :
    ∃ rest, path = separator :: rest := by
  cases path with
  | nil => cases absolute
  | cons byte rest => exact ⟨rest, by simpa [isAbsolute] using absolute⟩

end FilePath

namespace Uri

/-- A character that stands for itself in a URI. -/
def StandsForItself (char : Char) : Prop :=
  char.isAlphanum = true ∨ char ∈ ['/', '.', '-', '_', '~']

instance (char : Char) : Decidable (StandsForItself char) :=
  inferInstanceAs (Decidable (_ ∨ _))

/-- A hexadecimal digit in upper case. -/
def IsUpperHex (char : Char) : Prop :=
  char ∈ ['0', '1', '2', '3', '4', '5', '6', '7', '8', '9', 'A', 'B', 'C', 'D', 'E', 'F']

instance (char : Char) : Decidable (IsUpperHex char) :=
  inferInstanceAs (Decidable (_ ∈ _))

/-- A text in which every character stands for itself or belongs to an escape. -/
inductive IsEscaped : List Char → Prop
  | nil : IsEscaped []
  | plain {char : Char} {text : List Char} (itself : StandsForItself char)
      (rest : IsEscaped text) : IsEscaped (char :: text)
  | escape {high low : Char} {text : List Char} (first : IsUpperHex high) (second : IsUpperHex low)
      (rest : IsEscaped text) : IsEscaped ('%' :: high :: low :: text)

variable {byte : UInt8} {char high low : Char} {chars text : List Char}
  {path directory : FilePath}

theorem IsEscaped.append (front : IsEscaped chars) (back : IsEscaped text) :
    IsEscaped (chars ++ text) := by
  induction front with
  | nil => exact back
  | plain itself _ ih => exact .plain itself ih
  | escape first second _ ih => exact .escape first second ih

/-! ### Reading one piece -/

theorem hexDigit?_hexUpper : ∀ digit < 16, hexDigit? (hexUpper digit) = some digit := by
  decide

theorem isUpperHex_hexUpper : ∀ digit < 16, IsUpperHex (hexUpper digit) := by
  decide

/-- What stands for itself is an ASCII character, and not the one that begins an escape. -/
theorem standsForItself_of_isPlain (plain : isPlain byte = true) :
    byte.toNat < 0x80 ∧ byte ≠ 0x25 ∧ StandsForItself (Char.ofNat byte.toNat) := by
  have all : ∀ value < 0x100, isPlain (UInt8.ofNat value) = true →
      value < 0x80 ∧ value ≠ 0x25 ∧ StandsForItself (Char.ofNat value) := by
    decide +kernel
  have found := all byte.toNat byte.toNat_lt (by rwa [UInt8.ofNat_toNat])
  exact ⟨found.1, fun same => found.2.1 (by rw [same]; rfl), found.2.2⟩

/-- The value of a character that is made from an ASCII byte. -/
theorem toNat_ofNat_of_ascii (ascii : byte.toNat < 0x80) :
    (Char.ofNat byte.toNat).toNat = byte.toNat := by
  have valid : byte.toNat.isValidChar := .inl (Nat.lt_trans ascii (by decide))
  rw [Char.ofNat, dif_pos valid]
  rfl

theorem decode?_cons_of_ascii (ascii : char.toNat < 0x80) (single : char ≠ '%') :
    decode? (char :: text) = (decode? text).map (UInt8.ofNat char.toNat :: ·) := by
  rw [decode?]
  · simp [single, Nat.not_le.mpr ascii]
  · intro high low rest same
    exact absurd same single

theorem decode?_escape {upper lower : Nat} (first : hexDigit? high = some upper)
    (second : hexDigit? low = some lower) :
    decode? ('%' :: high :: low :: text) =
      (decode? text).map (UInt8.ofNat (16 * upper + lower) :: ·) := by
  rw [decode?, first, second]
  cases decode? text <;> rfl

/-- Reading what a byte is written as gives the byte, whatever stands behind it. -/
theorem decode?_encodeByte_append (byte : UInt8) (text : List Char) :
    decode? (encodeByte byte ++ text) = (decode? text).map (byte :: ·) := by
  rw [encodeByte]
  split
  · next plain =>
    obtain ⟨ascii, single, -⟩ := standsForItself_of_isPlain plain
    have value := toNat_ofNat_of_ascii ascii
    have other : Char.ofNat byte.toNat ≠ '%' := by
      intro same
      rw [same] at value
      exact single (UInt8.toNat_inj.mp value.symm)
    have below : (Char.ofNat byte.toNat).toNat < 0x80 := by rwa [value]
    rw [List.singleton_append, decode?_cons_of_ascii below other, value, UInt8.ofNat_toNat]
  · have bound : byte.toNat < 0x100 := byte.toNat_lt
    simp only [List.cons_append, List.nil_append]
    rw [decode?_escape (hexDigit?_hexUpper _ (by omega)) (hexDigit?_hexUpper _ (by omega)),
      Nat.div_add_mod, UInt8.ofNat_toNat]

/-- A byte is written as a character that stands for itself or as an escape. -/
theorem isEscaped_encodeByte (byte : UInt8) : IsEscaped (encodeByte byte) := by
  rw [encodeByte]
  split
  · next plain => exact .plain (standsForItself_of_isPlain plain).2.2 .nil
  · have bound : byte.toNat < 0x100 := byte.toNat_lt
    exact .escape (isUpperHex_hexUpper _ (by omega)) (isUpperHex_hexUpper _ (by omega)) .nil

/-! ### Reading a whole text -/

/-- Reading what bytes are written as gives the bytes. -/
@[simp]
theorem decode?_encode (bytes : Bytes) : decode? (encode bytes) = some bytes := by
  induction bytes with
  | nil => rfl
  | cons byte rest ih =>
    rw [encode, List.flatMap_cons, decode?_encodeByte_append, ← encode, ih]
    rfl

theorem isEscaped_encode (bytes : Bytes) : IsEscaped (encode bytes) := by
  induction bytes with
  | nil => exact .nil
  | cons byte rest ih => exact (isEscaped_encodeByte byte).append ih

/-- Different bytes are written differently. -/
theorem encode_inj {left right : Bytes} : encode left = encode right ↔ left = right := by
  constructor
  · intro same
    have read := congrArg decode? same
    rw [decode?_encode, decode?_encode] at read
    exact Option.some.inj read
  · exact congrArg encode

/-! ### The URI of a path -/

/-- The text of a path from the root begins with the separator. -/
theorem pathText_of_absolute (absolute : path.isAbsolute = true) :
    ∃ chars, pathText path = String.ofList ('/' :: chars) := by
  obtain ⟨rest, rfl⟩ := FilePath.eq_cons_of_isAbsolute absolute
  have ascii : FilePath.separator.toNat < 0x80 := by decide
  obtain ⟨chars, spelled⟩ := Bytes.lossyText_of_ascii ascii rest
  refine ⟨chars.map fun char => if char = '\\' then '/' else char, ?_⟩
  rw [pathText, spelled, String.toList_ofList, List.map_cons]
  rfl

/-- Nothing is put before the text of a path from the root. -/
theorem ofPath_of_absolute (absolute : (path.within directory).isAbsolute = true) :
    ofPath path directory =
      scheme ++ String.ofList (encode (Bytes.ofText (pathText (path.within directory)))) := by
  obtain ⟨chars, text⟩ := pathText_of_absolute absolute
  have first : Bytes.ofText (String.singleton '/') = [0x2F] :=
    Bytes.ofText_singleton_of_ascii (by decide)
  have unescaped (rest : Bytes) : rooted (encode ([0x2F] ++ rest)) = encode ([0x2F] ++ rest) := rfl
  rw [ofPath, text, Bytes.ofText_cons, first, unescaped]

/-- The URI of a path names the text of the path and nothing else: it is the scheme and an escaped
text which reads as the text of the path, and two paths share it just when they share that text. -/
theorem ofPath_names_pathText (absolute : path.isAbsolute = true ∨ directory.isAbsolute = true) :
    (∃ text, ofPath path directory = scheme ++ String.ofList text ∧ IsEscaped text ∧
      decode? text = some (Bytes.ofText (pathText (path.within directory)))) ∧
    ∀ other around : FilePath, other.isAbsolute = true ∨ around.isAbsolute = true →
      (ofPath path directory = ofPath other around ↔
        pathText (path.within directory) = pathText (other.within around)) := by
  have written := ofPath_of_absolute (FilePath.isAbsolute_within absolute)
  constructor
  · exact ⟨_, written, isEscaped_encode _, decode?_encode _⟩
  · intro other around otherAbsolute
    rw [written, ofPath_of_absolute (FilePath.isAbsolute_within otherAbsolute),
      String.append_right_inj, String.ofList_inj, encode_inj, Bytes.ofText_inj]

/-- A name with a backslash, a byte that spells nothing and a percent sign. -/
def crookedName : FilePath := [0x61, 0x5C, 0xFF, 0x25]

/-- It shares its URI with the name that its text spells, and with no shorter one. -/
theorem ofPath_of_crookedName :
    (∃ text, ofPath crookedName (Bytes.ofText "/tmp") = scheme ++ String.ofList text ∧
      IsEscaped text ∧ decode? text = some (Bytes.ofText "/tmp/a/\ufffd%")) ∧
    ofPath crookedName (Bytes.ofText "/tmp") = ofPath (Bytes.ofText "/tmp/a/\ufffd%") [] ∧
    ofPath crookedName (Bytes.ofText "/tmp") ≠ ofPath (Bytes.ofText "/tmp/a/\ufffd") [] := by
  have spelled : pathText (crookedName.within (Bytes.ofText "/tmp")) = "/tmp/a/\ufffd%" := by
    decide +kernel
  have absolute : FilePath.isAbsolute crookedName = true ∨
      FilePath.isAbsolute (Bytes.ofText "/tmp") = true := .inr (by decide)
  have named := ofPath_names_pathText absolute
  refine ⟨spelled ▸ named.1, ?_, ?_⟩
  · exact (named.2 _ _ (.inl (by decide))).mpr (by decide +kernel)
  · exact fun same => absurd ((named.2 _ _ (.inl (by decide))).mp same) (by decide +kernel)

end Uri

end FoldAtlas
