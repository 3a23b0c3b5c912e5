import FoldAtlas.Text.Utf8

/-!
# Characters in bytes

Which bytes a character is written in. An ASCII character is its own byte
(`Bytes.ofText_singleton_of_ascii`), and every byte of any other character is above ASCII
(`Bytes.le_of_mem_ofText_singleton`). So an ASCII byte in a text is always the character of that
value and never a part of another one (`Bytes.toNat_eq_of_mem_ofText_singleton`), which is why
bytes can be looked at before it is known what they spell.
-/

namespace FoldAtlas.Bytes

variable {char : Char} {byte : UInt8} {bytes : Bytes} {text : String}

/-- The bytes of one character. -/
theorem ofText_singleton (char : Char) :
    ofText (String.singleton char) = String.utf8EncodeChar char := by
  rw [ofText, String.singleton_eq_ofList, String.toByteArray_ofList, List.utf8Encode_singleton]
  simp

/-- The bytes of characters, one after the other. -/
theorem ofText_cons (char : Char) (chars : List Char) :
    ofText (String.ofList (char :: chars)) =
      ofText (String.singleton char) ++ ofText (String.ofList chars) := by
  rw [← ofText_append, String.singleton_eq_ofList, ← String.ofList_append, List.singleton_append]

/-- What a byte string spells is written as that byte string. -/
theorem ofText_of_text? (spelled : text? bytes = some text) : ofText text = bytes := by
  simp only [text?, String.fromUTF8?, String.fromUTF8] at spelled
  split at spelled
  · cases spelled
    simp [ofText]
  · cases spelled

/-- Different texts have different bytes. -/
theorem ofText_inj {left right : String} : ofText left = ofText right ↔ left = right := by
  constructor
  · intro same
    have read := congrArg text? same
    rw [text?_ofText, text?_ofText] at read
    exact Option.some.inj read
  · exact congrArg ofText

/-- An ASCII character is written as the byte of its value. -/
theorem ofText_singleton_of_ascii (ascii : char.toNat < 0x80) :
    ofText (String.singleton char) = [UInt8.ofNat char.toNat] := by
  have single : ∀ other ∈ [char], other.toNat < 128 := by
    intro other member
    rwa [List.mem_singleton.mp member]
  rw [String.singleton_eq_ofList, ofText_ofList single]
  rfl

/-- Every byte of a character that is not ASCII has its highest bit set. -/
theorem le_of_mem_ofText_singleton (beyond : 0x80 ≤ char.toNat)
    (member : byte ∈ ofText (String.singleton char)) : 0x80 ≤ byte.toNat := by
  have value : char.val.toNat = char.toNat := rfl
  have high {number : Nat} (least : 0x80 ≤ number) (greatest : number < 0x100) :
      0x80 ≤ (UInt8.ofNat number).toNat := by
    rw [UInt8.toNat_ofNat_of_lt' greatest]
    exact least
  rw [ofText_singleton, String.utf8EncodeChar] at member
  simp only [value] at member
  rw [if_neg (Nat.not_le.mpr beyond)] at member
  split at member
  · simp only [List.mem_cons, List.not_mem_nil, or_false] at member
    rcases member with rfl | rfl <;> exact high (by omega) (by omega)
  · split at member
    · simp only [List.mem_cons, List.not_mem_nil, or_false] at member
      rcases member with rfl | rfl | rfl <;> exact high (by omega) (by omega)
    · simp only [List.mem_cons, List.not_mem_nil, or_false] at member
      rcases member with rfl | rfl | rfl | rfl <;> exact high (by omega) (by omega)

/-- An ASCII byte in a character is the character of that value. -/
theorem toNat_eq_of_mem_ofText_singleton (ascii : byte.toNat < 0x80)
    (member : byte ∈ ofText (String.singleton char)) : char.toNat = byte.toNat := by
  by_cases small : char.toNat < 0x80
  · rw [ofText_singleton_of_ascii small] at member
    rw [List.mem_singleton.mp member]
    exact (UInt8.toNat_ofNat_of_lt' (Nat.lt_trans small (by decide))).symm
  · have beyond := le_of_mem_ofText_singleton (Nat.not_lt.mp small) member
    exact absurd ascii (Nat.not_lt.mpr beyond)

/-- An ASCII byte in a text is one of its characters. -/
theorem exists_of_mem_ofText {chars : List Char} (ascii : byte.toNat < 0x80)
    (member : byte ∈ ofText (String.ofList chars)) : ∃ char ∈ chars, char.toNat = byte.toNat := by
  induction chars with
  | nil => cases member
  | cons char chars ih =>
    rw [ofText_cons, List.mem_append] at member
    rcases member with here | later
    · exact ⟨char, List.mem_cons_self, toNat_eq_of_mem_ofText_singleton ascii here⟩
    · obtain ⟨other, among, value⟩ := ih later
      exact ⟨other, List.mem_cons_of_mem char among, value⟩

/-- Where one ASCII character takes the place of another, its byte takes the place of the other's,
and no byte of a longer character changes. -/
theorem ofText_replace (old new : Char) (oldAscii : old.toNat < 0x80) (newAscii : new.toNat < 0x80)
    (chars : List Char) :
    ofText (String.ofList (chars.map fun char => if char = old then new else char)) =
      (ofText (String.ofList chars)).map fun byte =>
        if byte = UInt8.ofNat old.toNat then UInt8.ofNat new.toNat else byte := by
  induction chars with
  | nil => rfl
  | cons char chars ih =>
    rw [List.map_cons, ofText_cons, ofText_cons, List.map_append, ih]
    congr 1
    by_cases replaced : char = old
    · rw [if_pos replaced, replaced, ofText_singleton_of_ascii oldAscii,
        ofText_singleton_of_ascii newAscii, List.map_singleton, if_pos rfl]
    · rw [if_neg replaced]
      refine (List.map_id' _).symm.trans (List.map_congr_left ?_)
      intro byte member
      rw [if_neg]
      rintro rfl
      have value : (UInt8.ofNat old.toNat).toNat = old.toNat :=
        UInt8.toNat_ofNat_of_lt' (Nat.lt_trans oldAscii (by decide))
      have same := toNat_eq_of_mem_ofText_singleton (by rwa [value]) member
      exact replaced (Char.toNat_inj.mp (same.trans value))

/-- A text that is written with an ASCII byte first begins with the character of that value. -/
theorem exists_of_ofText_eq_cons (ascii : byte.toNat < 0x80) (written : ofText text = byte :: bytes) :
    ∃ char chars, text = String.ofList (char :: chars) ∧ char.toNat = byte.toNat := by
  cases spelled : text.toList with
  | nil =>
    obtain rfl : text = "" := String.toList_injective spelled
    simp [ofText] at written
  | cons char chars =>
    obtain rfl : text = String.ofList (char :: chars) := String.toList_injective (by simp [spelled])
    refine ⟨char, chars, rfl, toNat_eq_of_mem_ofText_singleton ascii ?_⟩
    rw [ofText_cons] at written
    cases single : ofText (String.singleton char) with
    | nil => exact absurd single (ofText_singleton char ▸ String.utf8EncodeChar_ne_nil)
    | cons first others =>
      rw [single, List.cons_append] at written
      rw [(List.cons.inj written).1]
      exact List.mem_cons_self

/-- However ill-formed the bytes behind it are, an ASCII byte is read as the character of its
value. -/
theorem lossyText_of_ascii (ascii : byte.toNat < 0x80) (bytes : Bytes) :
    ∃ chars, lossyText (byte :: bytes) = String.ofList (Char.ofNat byte.toNat :: chars) := by
  rw [lossyText]
  split
  · next text spelled =>
    obtain ⟨char, chars, rfl, value⟩ := exists_of_ofText_eq_cons ascii (ofText_of_text? spelled)
    exact ⟨chars, by rw [← value, Char.ofNat_toNat]⟩
  · have below : byte < 0x80 := UInt8.lt_iff_toNat_lt.mpr ascii
    exact ⟨lossyChars none bytes, by simp [lossyChars, beginSequence, below]⟩

end FoldAtlas.Bytes
