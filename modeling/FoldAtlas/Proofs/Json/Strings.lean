import FoldAtlas.Proofs.Json.Numerals
import FoldAtlas.Proofs.Text.Characters

/-!
# Strings that are read back

A string is read as it was written, whatever characters it holds
(`readFrom_characters`): those that would end it or stand for something else are
escaped, and no byte of any other character looks like one of them.
-/

namespace FoldAtlas.Json

variable {around : List Enclosure} {bytes : Bytes} {role : StringRole} {char : Char}

/-! ## Characters that stand for themselves -/

/-- Whether a byte inside a string stands for itself. -/
def IsPlain (byte : UInt8) : Prop := byte ≠ 0x22 ∧ byte ≠ 0x5C ∧ ¬ byte < 0x20

/-- Bytes that stand for themselves are taken as they are. -/
theorem readFrom_plain (plain : ∀ byte ∈ bytes, IsPlain byte) (backward rest : Bytes) :
    readFrom ⟨.string role backward .plain, around⟩ (bytes ++ rest) =
      readFrom ⟨.string role (bytes.reverse ++ backward) .plain, around⟩ rest := by
  induction bytes generalizing backward with
  | nil => rfl
  | cons byte bytes ih =>
    obtain ⟨noQuote, noBackslash, noControl⟩ := plain byte List.mem_cons_self
    have taken : stepReader ⟨.string role backward .plain, around⟩ byte =
        some ⟨.string role (byte :: backward) .plain, around⟩ := by
      simp only [stepReader, stepToken, stepString, if_neg noQuote, if_neg noBackslash,
        if_neg noControl]
    rw [List.cons_append, readFrom_cons taken,
      ih (fun other member => plain other (List.mem_cons_of_mem byte member)), List.reverse_cons,
      List.append_assoc, List.singleton_append]

/-- Which bytes stand for themselves, by their values. -/
theorem isPlain_of_toNat {byte : UInt8} (noQuote : byte.toNat ≠ 0x22)
    (noBackslash : byte.toNat ≠ 0x5C) (noControl : 0x20 ≤ byte.toNat) : IsPlain byte := by
  refine ⟨?_, ?_, ?_⟩
  · rintro rfl
    exact noQuote rfl
  · rintro rfl
    exact noBackslash rfl
  · rw [UInt8.lt_iff_toNat_lt]
    exact Nat.not_lt.mpr noControl

/-- A character that needs no escape is written in bytes that stand for themselves. -/
theorem isPlain_of_mem_singleton (noQuote : char ≠ '\x22') (noBackslash : char ≠ '\\')
    (noControl : ¬ char.toNat < 0x20) :
    ∀ byte ∈ Bytes.ofText (String.singleton char), IsPlain byte := by
  intro byte member
  by_cases ascii : byte.toNat < 0x80
  · have same := Bytes.toNat_eq_of_mem_ofText_singleton ascii member
    have noQuoteToo : char.toNat ≠ 0x22 := fun same => noQuote (Char.toNat_inj.mp same)
    have noBackslashToo : char.toNat ≠ 0x5C := fun same => noBackslash (Char.toNat_inj.mp same)
    apply isPlain_of_toNat <;> omega
  · apply isPlain_of_toNat <;> omega

/-! ## Characters that are escaped -/

/-- A hexadecimal digit in lower case has its value. -/
theorem hexByte?_hexLower {digit : Nat} (small : digit < 16) :
    hexByte? (hexLower digit).toUInt8 = some digit := by
  have checked : ∀ digit < 16, hexByte? (hexLower digit).toUInt8 = some digit := by decide
  exact checked digit small

/-- A hexadecimal digit is written in ASCII. -/
theorem hexLower_ascii {digit : Nat} (small : digit < 16) : (hexLower digit).toNat < 128 := by
  have checked : ∀ digit < 16, (hexLower digit).toNat < 128 := by decide
  exact checked digit small

/-- A numbered escape of a control character stands for it. -/
theorem readFrom_numbered (control : char.toNat < 0x20) (backward rest : Bytes) :
    readFrom ⟨.string role backward .plain, around⟩
        (Bytes.ofText ("\\u00" ++ String.ofList [hexLower (char.toNat / 16),
          hexLower (char.toNat % 16)]) ++ rest) =
      readFrom ⟨.string role ((Bytes.ofText (String.singleton char)).reverse ++ backward) .plain,
        around⟩ rest := by
  have high : char.toNat / 16 < 16 := by omega
  have low : char.toNat % 16 < 16 := by omega
  have written : Bytes.ofText ("\\u00" ++ String.ofList [hexLower (char.toNat / 16),
      hexLower (char.toNat % 16)]) = [0x5C, 0x75, 0x30, 0x30] ++
        [(hexLower (char.toNat / 16)).toUInt8, (hexLower (char.toNat % 16)).toUInt8] := by
    have digits : Bytes.ofText (String.ofList [hexLower (char.toNat / 16),
        hexLower (char.toNat % 16)]) =
          [(hexLower (char.toNat / 16)).toUInt8, (hexLower (char.toNat % 16)).toUInt8] :=
      Bytes.ofText_ofList (by simp [hexLower_ascii high, hexLower_ascii low])
    rw [Bytes.ofText_append, digits]
    rfl
  have zeros (rest : Bytes) : readFrom ⟨.string role backward .plain, around⟩
      ([0x5C, 0x75, 0x30, 0x30] ++ rest) =
        readFrom ⟨.string role backward (.digits 2 0 false none), around⟩ rest := rfl
  have third : stepReader ⟨.string role backward (.digits 2 0 false none), around⟩
      (hexLower (char.toNat / 16)).toUInt8 =
        some ⟨.string role backward (.digits 3 (char.toNat / 16) false none), around⟩ := by
    simp [stepReader, stepToken, stepString, hexByte?_hexLower high]
  have fourth : stepReader
      ⟨.string role backward (.digits 3 (char.toNat / 16) false none), around⟩
      (hexLower (char.toNat % 16)).toUInt8 =
        some ⟨.string role (codeBackward char.toNat ++ backward) .plain, around⟩ := by
    have value : char.toNat / 16 * 16 + char.toNat % 16 = char.toNat := by omega
    have noLow : ¬ (0xDC00 ≤ char.toNat ∧ char.toNat ≤ 0xDFFF) := by omega
    have noHigh : ¬ (0xD800 ≤ char.toNat ∧ char.toNat ≤ 0xDBFF) := by omega
    simp only [stepReader, stepToken, stepString, hexByte?_hexLower low, Option.isNone_some,
      Bool.or_self, Nat.lt_irrefl, Bool.false_eq_true, ↓reduceIte, Option.getD_some, value,
      endDigits, if_neg noLow, if_neg noHigh]
  rw [written, List.append_assoc, zeros, List.cons_append, readFrom_cons third,
    List.singleton_append, readFrom_cons fourth, codeBackward, Char.ofNat_toNat]

/-- Every character stands for itself in the form in which it is written. -/
theorem readFrom_escapedChar (char : Char) (backward rest : Bytes) :
    readFrom ⟨.string role backward .plain, around⟩ (Bytes.ofText (escapedChar char) ++ rest) =
      readFrom ⟨.string role ((Bytes.ofText (String.singleton char)).reverse ++ backward) .plain,
        around⟩ rest := by
  by_cases lettered : char ∈ ['\x22', '\\', '\x08', '\x0c', '\n', '\r', '\t']
  · simp only [List.mem_cons, List.not_mem_nil, or_false] at lettered
    rcases lettered with rfl | rfl | rfl | rfl | rfl | rfl | rfl <;> rfl
  · simp only [List.mem_cons, List.not_mem_nil, or_false, not_or] at lettered
    obtain ⟨noQuote, noBackslash, others⟩ := lettered
    simp only [escapedChar, if_neg noQuote, if_neg noBackslash, others, ↓reduceIte]
    split
    · next control => exact readFrom_numbered control backward rest
    · next noControl =>
      exact readFrom_plain (isPlain_of_mem_singleton noQuote noBackslash noControl) backward rest

/-! ## Whole strings -/

/-- The characters of a string are read as they were written. -/
theorem readFrom_characters (chars : List Char) (backward rest : Bytes) :
    readFrom ⟨.string role backward .plain, around⟩
        (Bytes.ofText (String.join (chars.map escapedChar)) ++ rest) =
      readFrom ⟨.string role ((Bytes.ofText (String.ofList chars)).reverse ++ backward) .plain,
        around⟩ rest := by
  induction chars generalizing backward with
  | nil => rfl
  | cons char chars ih =>
    rw [List.map_cons, String.join_cons, Bytes.ofText_append, List.append_assoc,
      readFrom_escapedChar, ih, Bytes.ofText_cons, List.reverse_append, List.append_assoc]

/-- The state behind a string. -/
def afterString (role : StringRole) (value : String) (around : List Enclosure) : ReaderState :=
  match role with
  | .value => complete (.string value) around
  | .name members => ⟨.colon members value, around⟩

/-- A string is read as it was written, from its first character to the closing quote. -/
theorem readFrom_string (value : String) (rest : Bytes) :
    readFrom ⟨.string role [] .plain, around⟩
        (Bytes.ofText (String.join (value.toList.map escapedChar)) ++ 0x22 :: rest) =
      readFrom (afterString role value around) rest := by
  have ended : stepReader
      ⟨.string role ((Bytes.ofText (String.ofList value.toList)).reverse ++ []) .plain, around⟩
      0x22 = some (afterString role value around) := by
    simp only [stepReader, stepToken, stepString, ↓reduceIte, endString, List.append_nil,
      List.reverse_reverse, Bytes.text?_ofText, String.ofList_toList]
    cases role <;> rfl
  rw [readFrom_characters, readFrom_cons ended]

/-- The bytes of a string, quotes included. -/
theorem ofText_stringText (value : String) :
    Bytes.ofText (stringText value) =
      0x22 :: (Bytes.ofText (String.join (value.toList.map escapedChar)) ++ [0x22]) := by
  rw [stringText, Bytes.ofText_append, Bytes.ofText_append]
  rfl

/-- A string is read as it was written where a value may stand. -/
theorem readFrom_stringText (value : String) (rest : Bytes) :
    readFrom ⟨.value, around⟩ (Bytes.ofText (stringText value) ++ rest) =
      readFrom (complete (.string value) around) rest := by
  have opened : stepReader ⟨.value, around⟩ 0x22 = some ⟨.string .value [] .plain, around⟩ := rfl
  rw [ofText_stringText, List.cons_append, readFrom_cons opened, List.append_assoc,
    List.singleton_append, readFrom_string]
  rfl

/-- A string is read as it was written where the name of a member may stand. -/
theorem readFrom_name {members : List (String × Json)} (name : String) (rest : Bytes) :
    readFrom ⟨.nextName members, around⟩ (Bytes.ofText (stringText name) ++ rest) =
      readFrom ⟨.colon members name, around⟩ rest := by
  have opened : stepReader ⟨.nextName members, around⟩ 0x22 =
      some ⟨.string (.name members) [] .plain, around⟩ := rfl
  rw [ofText_stringText, List.cons_append, readFrom_cons opened, List.append_assoc,
    List.singleton_append, readFrom_string]
  rfl

end FoldAtlas.Json
