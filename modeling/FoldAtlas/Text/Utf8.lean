/-!
# Bytes and the text they spell

A stream delivers bytes and the rest of the library speaks about characters.
This module is the only place where one becomes the other: `Bytes.ofText`
writes a string in UTF-8, `Bytes.text?` reads one back when every byte belongs
to a well-formed sequence, and `Bytes.lossyText` reads any bytes at all, with
one replacement character for each ill-formed part.

Nothing here knows about frames, paths or JSON.
-/

namespace FoldAtlas

/-- A finite piece of a byte stream. -/
abbrev Bytes := List UInt8

namespace Bytes

/-- The UTF-8 encoding of a string. -/
def ofText (text : String) : Bytes :=
  text.toByteArray.data.toList

/-- The string that the bytes spell, when they are well-formed UTF-8. -/
def text? (bytes : Bytes) : Option String :=
  String.fromUTF8? ⟨bytes.toArray⟩

/-- Writing a string and reading the bytes gives the string back. -/
@[simp]
theorem text?_ofText (text : String) : text? (ofText text) = some text := by
  have whole : (⟨(ofText text).toArray⟩ : ByteArray) = text.toByteArray := by
    simp [ofText]
  simp only [text?, whole, String.fromUTF8?, text.isValidUTF8, ↓reduceDIte]
  rfl

/-- Concatenated strings are written one after the other. -/
@[simp]
theorem ofText_append (left right : String) :
    ofText (left ++ right) = ofText left ++ ofText right := by
  simp [ofText]

/-- ASCII characters are written as one byte each. -/
theorem ofText_ofList {chars : List Char} (ascii : ∀ char ∈ chars, char.toNat < 128) :
    ofText (String.ofList chars) = chars.map Char.toUInt8 := by
  induction chars with
  | nil => rfl
  | cons char rest ih =>
    have one : char.utf8Size = 1 := by
      rw [Char.utf8Size_eq_one_iff, UInt32.le_iff_toNat_le]
      exact Nat.le_of_lt_succ (ascii char List.mem_cons_self)
    have ihRest := ih fun other member => ascii other (List.mem_cons_of_mem _ member)
    simp only [ofText, String.toByteArray_ofList] at ihRest ⊢
    rw [List.utf8Encode_cons, List.utf8Encode_singleton, String.utf8EncodeChar_eq_singleton one]
    simp [ihRest]

/-- A multi-byte sequence whose last bytes are still to come: the bits read so
far, the interval in which the next byte must lie, and how many bytes are
missing, the next one included. -/
structure OpenSequence where
  /-- The code point bits collected from the bytes read so far. -/
  bits : Nat
  /-- The least byte that may follow. -/
  lowest : UInt8
  /-- The greatest byte that may follow. -/
  highest : UInt8
  /-- The number of bytes still missing. -/
  missing : Nat

namespace OpenSequence

/-- What a first byte announces. The intervals of the second byte exclude
overlong forms, surrogates and code points past the last one. -/
def start? (byte : UInt8) : Option OpenSequence :=
  let value := byte.toNat
  if 0xC2 ≤ value ∧ value ≤ 0xDF then some ⟨value - 0xC0, 0x80, 0xBF, 1⟩
  else if value = 0xE0 then some ⟨0, 0xA0, 0xBF, 2⟩
  else if value = 0xED then some ⟨0xD, 0x80, 0x9F, 2⟩
  else if 0xE1 ≤ value ∧ value ≤ 0xEF then some ⟨value - 0xE0, 0x80, 0xBF, 2⟩
  else if value = 0xF0 then some ⟨0, 0x90, 0xBF, 3⟩
  else if 0xF1 ≤ value ∧ value ≤ 0xF3 then some ⟨value - 0xF0, 0x80, 0xBF, 3⟩
  else if value = 0xF4 then some ⟨4, 0x80, 0x8F, 3⟩
  else none

/-- The code point bits after one more byte, which contributes six of them. -/
def bitsWith (sequence : OpenSequence) (byte : UInt8) : Nat :=
  sequence.bits * 64 + byte.toNat % 64

end OpenSequence

/-- The character that stands for an ill-formed part of a byte string. -/
def replacement : Char := '\ufffd'

/-- Read a byte that begins a new sequence: the characters that are complete
with it, and the sequence that it opens. -/
def beginSequence (byte : UInt8) : List Char × Option OpenSequence :=
  if byte < 0x80 then ([Char.ofNat byte.toNat], none)
  else match OpenSequence.start? byte with
    | some sequence => ([], some sequence)
    | none => ([replacement], none)

/-- The characters of a byte string from a given position inside a sequence.
The longest piece that could still have begun a character becomes one
replacement character. -/
def lossyChars : Option OpenSequence → Bytes → List Char
  | none, [] => []
  | some _, [] => [replacement]
  | none, byte :: rest =>
    let (complete, opened) := beginSequence byte
    complete ++ lossyChars opened rest
  | some sequence, byte :: rest =>
    if sequence.lowest ≤ byte ∧ byte ≤ sequence.highest then
      if sequence.missing ≤ 1 then
        Char.ofNat (sequence.bitsWith byte) :: lossyChars none rest
      else
        lossyChars
          (some ⟨sequence.bitsWith byte, 0x80, 0xBF, sequence.missing - 1⟩) rest
    else
      let (complete, opened) := beginSequence byte
      replacement :: complete ++ lossyChars opened rest

/-- The text of arbitrary bytes, each ill-formed part replaced. -/
def lossyText (bytes : Bytes) : String :=
  match text? bytes with
  | some text => text
  | none => String.ofList (lossyChars none bytes)

end Bytes

end FoldAtlas
