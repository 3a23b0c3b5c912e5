import FoldAtlas.Frame.Basic

/-!
# Written frames

What reading makes of one written frame: the line that declares the length is
understood, the blank line ends the header block, and the payload is cut off
exactly, whatever stands in it and behind it (`next_encode`).
-/

namespace FoldAtlas.Frame

/-- The line that declares the length of a payload. -/
def lengthLine (length : Nat) : Bytes :=
  Bytes.ofText ("Content-Length: " ++ toString length ++ "\r\n")

/-- A frame is the line that declares the length, a blank line and the payload. -/
theorem encode_eq (payload : Bytes) :
    encode payload = lengthLine payload.length ++ Bytes.ofText "\r\n" ++ payload := by
  have lineEnd : "\r\n\r\n" = "\r\n" ++ "\r\n" := rfl
  simp only [encode, lengthLine, lineEnd, Bytes.ofText_append, List.append_assoc]

/-! ## The line that declares the length -/

/-- Digits are no blanks. -/
theorem isBlank_of_isDigit {char : Char} (digit : char.isDigit = true) : isBlank char = false := by
  have bounds := bounds_of_isDigit digit
  rw [isBlank, List.any_eq_false]
  intro range member
  simp only [blankRanges, List.mem_cons, List.not_mem_nil, or_false] at member
  simp only [Bool.and_eq_true, decide_eq_true_eq, not_and, Nat.not_le]
  rcases member with rfl | rfl | rfl | rfl | rfl | rfl | rfl | rfl | rfl | rfl <;> omega

/-- Nothing is trimmed off digits. -/
theorem trim_of_digits {digits : List Char} (decimal : ∀ char ∈ digits, char.isDigit = true) :
    trim digits = digits := by
  have kept (chars : List Char) (decimal : ∀ char ∈ chars, char.isDigit = true) :
      chars.dropWhile isBlank = chars := by
    cases chars with
    | nil => rfl
    | cons char rest =>
      rw [List.dropWhile_cons_of_neg]
      simp [isBlank_of_isDigit (decimal char List.mem_cons_self)]
  rw [trim, trimFront, kept digits decimal, trimBack,
    kept digits.reverse fun char member => decimal char (List.mem_reverse.mp member),
    List.reverse_reverse]

/-- The end of a line is dropped behind digits. -/
theorem withoutLineEnd_of_digits (front : List Char) {digits : List Char} (nonempty : digits ≠ [])
    (decimal : ∀ char ∈ digits, char.isDigit = true) :
    withoutLineEnd (front ++ digits ++ ['\r', '\n']) = front ++ digits := by
  obtain ⟨digits, last, rfl⟩ := (List.eq_nil_or_concat digits).resolve_left nonempty
  have digit := decimal last (by simp)
  have kept : (last = '\r' || last = '\n') = false := by
    simp only [Bool.or_eq_false_iff, decide_eq_false_iff_not]
    constructor <;> rintro rfl <;> cases digit
  simp [withoutLineEnd, kept]

/-- The line that declares a length is understood. -/
theorem meaning_lengthLine (declared : Option Nat) {length : Nat} (bound : length < UInt64.size) :
    meaning declared (lengthLine length) = .header (some length) := by
  have decimal : ∀ char ∈ Nat.toDigits 10 length, char.isDigit = true :=
    fun _ => isDigit_of_mem_toDigits
  have text : ("Content-Length: " ++ toString length ++ "\r\n").toList =
      "Content-Length: ".toList ++ Nat.toDigits 10 length ++ ['\r', '\n'] := by
    simp
  have shape : withoutLineEnd ("Content-Length: " ++ toString length ++ "\r\n").toList =
      "Content-Length".toList ++ ':' :: ' ' :: Nat.toDigits 10 length := by
    rw [text, withoutLineEnd_of_digits _ Nat.toDigits_ne_nil decimal]
    rfl
  have split := splitAtColon_append "Content-Length".toList
    (' ' :: Nat.toDigits 10 length) (by decide)
  have value : trim (' ' :: Nat.toDigits 10 length) = Nat.toDigits 10 length :=
    Eq.trans rfl (trim_of_digits decimal)
  have named : isLengthHeader "Content-Length".toList = true := by decide
  have kept : (UInt64.ofNat length).toNat = length :=
    UInt64.toNat_ofNat_of_lt bound
  rw [meaning, lengthLine, Bytes.text?_ofText]
  simp only [shape]
  split
  · next empty => simp at empty
  · simp only [split, named, ↓reduceIte, value, unsigned64?_toDigits bound, kept]

/-- A blank line is understood. -/
theorem meaning_lineEnd (declared : Option Nat) :
    meaning declared (Bytes.ofText "\r\n") = .blank := by
  rw [meaning, Bytes.text?_ofText]
  rfl

/-- Digits are ASCII, and no newlines. -/
theorem plain_of_isDigit {char : Char} (digit : char.isDigit = true) :
    char.toNat < 128 ∧ char.toUInt8 ≠ 0x0A := by
  have bounds := bounds_of_isDigit digit
  refine ⟨by omega, fun same => ?_⟩
  have value : char.toNat % 256 = 10 := congrArg UInt8.toNat same
  omega

/-- The line that declares a length ends with its only newline, and is short. -/
theorem lengthLine_eq {length : Nat} (bound : length < UInt64.size) :
    ∃ line, lengthLine length = line ++ [0x0A] ∧ 0x0A ∉ line ∧ line.length < 100 := by
  let front := "Content-Length: ".toList ++ Nat.toDigits 10 length ++ ['\r']
  have label : ∀ char ∈ "Content-Length: ".toList, char.toNat < 128 ∧ char.toUInt8 ≠ 0x0A := by
    have checked : "Content-Length: ".toList.all
        (fun char => char.toNat < 128 ∧ char.toUInt8 ≠ 0x0A) = true := by decide
    simpa only [List.all_eq_true, decide_eq_true_eq] using checked
  have plain : ∀ char ∈ front, char.toNat < 128 ∧ char.toUInt8 ≠ 0x0A := by
    intro char member
    rcases List.mem_append.mp member with member | member
    · rcases List.mem_append.mp member with member | member
      · exact label char member
      · exact plain_of_isDigit (isDigit_of_mem_toDigits member)
    · obtain rfl := List.mem_singleton.mp member
      decide
  have written : "Content-Length: " ++ toString length ++ "\r\n" =
      String.ofList front ++ String.ofList ['\n'] := by
    apply String.toList_injective
    simp [front]
  refine ⟨front.map Char.toUInt8, ?_, ?_, ?_⟩
  · rw [lengthLine, written, Bytes.ofText_append,
      Bytes.ofText_ofList fun char member => (plain char member).1]
    rfl
  · intro member
    obtain ⟨char, among, same⟩ := List.mem_map.mp member
    exact (plain char among).2 same
  · have digits : (Nat.toDigits 10 length).length ≤ 20 :=
      (Nat.length_toDigits_le_iff (by decide) (by decide)).mpr (Nat.lt_trans bound (by decide))
    simp only [front, List.length_map, List.length_append, List.length_singleton]
    have label : "Content-Length: ".toList.length = 16 := rfl
    omega

/-! ## The header block -/

/-- What is not refused is text. -/
theorem isNone_text?_of_meaning {declared : Option Nat} {line : Bytes}
    (understood : meaning declared line ≠ .refused .headerNotText) :
    (Bytes.text? line).isNone = false := by
  cases spelled : Bytes.text? line with
  | none => simp [meaning, spelled] at understood
  | some _ => rfl

/-- A line that is a header is read, and the header block goes on. -/
theorem header_of_line {budget : Nat} {declared next : Option Nat} {line : Bytes}
    (inside : 0x0A ∉ line) (fits : line.length < budget)
    (understood : meaning declared (line ++ [0x0A]) = .header next) (rest : Bytes) :
    header budget declared (line ++ 0x0A :: rest) =
      header (budget - (line.length + 1)) next rest := by
  have scan := scanLine_newline inside fits rest
  have text := isNone_text?_of_meaning (by rw [understood]; simp)
  rw [header]
  simp [scan, text, understood, overruns]

/-- A blank line is read, and the payload follows. -/
theorem header_of_blank {budget : Nat} {declared : Option Nat} {line : Bytes}
    (inside : 0x0A ∉ line) (fits : line.length < budget)
    (understood : meaning declared (line ++ [0x0A]) = .blank) (rest : Bytes) :
    header budget declared (line ++ 0x0A :: rest) = payload declared rest := by
  have scan := scanLine_newline inside fits rest
  have text := isNone_text?_of_meaning (by rw [understood]; simp)
  rw [header]
  simp [scan, text, understood, overruns]

/-- A payload is cut off a stream that begins with it. -/
theorem payload_append {payload : Bytes} (short : payload.length ≤ payloadLimit) (rest : Bytes) :
    Frame.payload (some payload.length) (payload ++ rest) = .delivered (.frame payload) rest := by
  have within : payload.length ≤ (payload ++ rest).length := by simp
  rw [Frame.payload]
  simp [short]

/-- Behind the line that declares a length, the header block goes on. -/
theorem next_lengthLine {length : Nat} (bound : length < UInt64.size) (rest : Bytes) :
    next (lengthLine length ++ rest) =
      header (headerBudget - (lengthLine length).length) (some length) rest := by
  obtain ⟨line, declaration, inside, shortLine⟩ := lengthLine_eq bound
  have understood := meaning_lengthLine none bound
  have fits : line.length < headerBudget := Nat.lt_trans shortLine (by decide)
  rw [declaration] at understood
  rw [next, declaration, List.append_assoc, List.singleton_append,
    header_of_line inside fits understood, List.length_append, List.length_singleton]

/-- Behind a blank line, the payload follows. -/
theorem header_lineEnd {budget : Nat} (room : 1 < budget) (declared : Option Nat) (rest : Bytes) :
    header budget declared (Bytes.ofText "\r\n" ++ rest) = payload declared rest := by
  have inside : 0x0A ∉ ([0x0D] : Bytes) := by decide
  exact header_of_blank inside room (meaning_lineEnd declared) rest

/-- The line that declares a length leaves room for more lines. -/
theorem lengthLine_fits {length : Nat} (bound : length < UInt64.size) :
    (lengthLine length).length + 100 < headerBudget := by
  obtain ⟨line, declaration, -, shortLine⟩ := lengthLine_eq bound
  rw [declaration, List.length_append, List.length_singleton, headerBudget]
  omega

/-- A payload within the limit has a length of 64 bits. -/
theorem length_lt_size {payload : Bytes} (short : payload.length ≤ payloadLimit) :
    payload.length < UInt64.size :=
  Nat.lt_of_le_of_lt short (by decide)

/-- A frame at the front of a stream is read as it was written, and nothing behind
it is touched. -/
theorem next_encode {payload : Bytes} (short : payload.length ≤ payloadLimit) (rest : Bytes) :
    next (encode payload ++ rest) = .delivered (.frame payload) rest := by
  have bound := length_lt_size short
  have room := lengthLine_fits bound
  rw [encode_eq, List.append_assoc, List.append_assoc, next_lengthLine bound,
    header_lineEnd (by omega), payload_append short]

end FoldAtlas.Frame
