import FoldAtlas.Proofs.Frame.Header
import FoldAtlas.Proofs.Text.Characters
import Mathlib.Algebra.Group.Nat.Defs
import Mathlib.Data.List.TakeWhile

/-!
# Header lines

What stands in a header block. A header line is a name, a colon and a value
(`HeaderLine`), and a line that is accepted as a header is one
(`HeaderLine.exists_of_meaning`). A header line either declares a length, as its value
spells it, or leaves the length that was declared before it (`HeaderLine.meaning_iff`).
A line of nothing but carriage returns ends the block, and no other line does
(`meaning_blankLine`, `returns_of_blank`).
-/

namespace FoldAtlas

/-! ## Text -/

/-- Only the newline is written with the byte of a newline. -/
theorem newline_of_mem_singleton {char : Char}
    (member : 0x0A ∈ Bytes.ofText (String.singleton char)) : char = '\n' :=
  Char.toNat_inj.mp (Bytes.toNat_eq_of_mem_ofText_singleton (by decide) member)

/-- Text without a newline is written without its byte, and no other text is. -/
theorem newline_mem_ofText {chars : List Char} :
    0x0A ∈ Bytes.ofText (String.ofList chars) ↔ '\n' ∈ chars := by
  induction chars with
  | nil => simp [Bytes.ofText]
  | cons char chars ih =>
    rw [Bytes.ofText_cons, List.mem_append, ih, List.mem_cons]
    refine or_congr_left ⟨fun member => (newline_of_mem_singleton member).symm, ?_⟩
    rintro rfl
    decide

/-- What spells a line without a newline and the newline behind it. -/
theorem exists_of_text?_line {body : Bytes} (inside : 0x0A ∉ body) {text : String}
    (spelled : Bytes.text? (body ++ [0x0A]) = some text) :
    ∃ chars, text.toList = chars ++ ['\n'] ∧ '\n' ∉ chars ∧
      Bytes.ofText (String.ofList chars) = body := by
  have written := Bytes.ofText_of_text? spelled
  rcases List.eq_nil_or_concat text.toList with empty | ⟨chars, last, split⟩
  · obtain rfl : text = "" := String.toList_injective empty
    simp [Bytes.ofText] at written
  · obtain rfl : text = String.ofList chars ++ String.singleton last := by
      apply String.toList_injective
      simp [split]
    rw [Bytes.ofText_append] at written
    have member : 0x0A ∈ Bytes.ofText (String.singleton last) := by
      obtain ⟨front, final, shape⟩ :=
        (List.eq_nil_or_concat (Bytes.ofText (String.singleton last))).resolve_left (by
          rw [Bytes.ofText_singleton]
          exact String.utf8EncodeChar_ne_nil)
      rw [List.concat_eq_append] at shape
      rw [shape, ← List.append_assoc] at written
      have same : final = 0x0A := by simpa using congrArg List.getLast? written
      simp [shape, same]
    obtain rfl := newline_of_mem_singleton member
    have same : Bytes.ofText (String.ofList chars) = body := List.append_cancel_right written
    refine ⟨chars, by simp, fun newline => inside ?_, same⟩
    exact same ▸ newline_mem_ofText.mpr newline

/-! ## Numerals -/

/-- Whether some characters spell a number of 64 bits: digits, with or without a plus sign
before them. -/
def Spells (numeral : List Char) (number : Nat) : Prop :=
  ∃ digits, (numeral = digits ∨ numeral = '+' :: digits) ∧ digits ≠ [] ∧
    (∀ char ∈ digits, char.isDigit = true) ∧ Nat.ofDigitChars 10 digits 0 = number ∧
    number < 2 ^ 64

/-- What has a value is a digit. -/
theorem isDigit_of_decimalDigit? {char : Char} {digit : Nat}
    (valued : decimalDigit? char = some digit) : char.isDigit = true := by
  simp only [decimalDigit?] at valued
  split at valued
  · next bounds => simpa [Char.isDigit, UInt32.le_iff_toNat_le] using bounds
  · cases valued

/-- What a number goes on with are digits. -/
theorem isDigit_of_continueDecimal {value number : Nat} {digits : List Char}
    (continued : continueDecimal value digits = some number) :
    ∀ char ∈ digits, char.isDigit = true := by
  induction digits generalizing value with
  | nil => simp
  | cons first digits ih =>
    simp only [continueDecimal] at continued
    split at continued
    · next digit valued =>
      exact List.forall_mem_cons.mpr ⟨isDigit_of_decimalDigit? valued, ih continued⟩
    · cases continued

/-- A decimal number is written in one or more digits, and denotes what they amount to. -/
theorem decimal?_eq_some_iff {digits : List Char} {number : Nat} :
    decimal? digits = some number ↔
      digits ≠ [] ∧ (∀ char ∈ digits, char.isDigit = true) ∧
        Nat.ofDigitChars 10 digits 0 = number := by
  cases digits with
  | nil => simp [decimal?]
  | cons first digits =>
    simp only [decimal?, ne_eq, reduceCtorEq, not_false_eq_true, true_and]
    constructor
    · intro continued
      have decimal := isDigit_of_continueDecimal continued
      rw [continueDecimal_eq 0 decimal] at continued
      exact ⟨decimal, Option.some.inj continued⟩
    · rintro ⟨decimal, rfl⟩
      exact continueDecimal_eq 0 decimal

/-- Digits have a value of 64 bits when they spell it, with or without a sign. -/
theorem unsigned64?_digits {numeral digits : List Char}
    (written : unsigned64? numeral = match decimal? digits with
      | some value => if value < UInt64.size then some (UInt64.ofNat value) else none
      | none => none) {number : Nat} :
    (unsigned64? numeral).map UInt64.toNat = some number ↔
      decimal? digits = some number ∧ number < 2 ^ 64 := by
  rw [written]
  cases decimal? digits with
  | none => simp
  | some value =>
    by_cases fits : value < UInt64.size
    · have kept : (UInt64.ofNat value).toNat = value := UInt64.toNat_ofNat_of_lt fits
      simp only [fits, ↓reduceIte, Option.map_some, kept, Option.some.injEq]
      exact ⟨fun same => ⟨same, same ▸ fits⟩, And.left⟩
    · simp only [fits, ↓reduceIte, Option.map_none, Option.some.injEq, reduceCtorEq, false_iff]
      rintro ⟨rfl, small⟩
      exact fits small

/-- A numeral has the value that it spells. -/
theorem unsigned64?_eq_some_iff {numeral : List Char} {number : Nat} :
    (unsigned64? numeral).map UInt64.toNat = some number ↔ Spells numeral number := by
  by_cases signed : ∃ digits, numeral = '+' :: digits
  · obtain ⟨digits, rfl⟩ := signed
    rw [unsigned64?_digits rfl, decimal?_eq_some_iff]
    constructor
    · rintro ⟨⟨filled, decimal, value⟩, fits⟩
      exact ⟨digits, .inr rfl, filled, decimal, value, fits⟩
    · rintro ⟨other, same | same, filled, decimal, value, fits⟩
      · have digit : '+'.isDigit = true := decimal '+' (same ▸ List.mem_cons_self)
        cases digit
      · cases same
        exact ⟨⟨filled, decimal, value⟩, fits⟩
  · have unsigned : ∀ digits, numeral ≠ '+' :: digits := fun digits same => signed ⟨digits, same⟩
    have written : unsigned64? numeral = match decimal? numeral with
        | some value => if value < UInt64.size then some (UInt64.ofNat value) else none
        | none => none := by
      cases read : decimal? numeral <;> simp only [unsigned64?, read]
    rw [unsigned64?_digits written, decimal?_eq_some_iff]
    constructor
    · rintro ⟨⟨filled, decimal, value⟩, fits⟩
      exact ⟨numeral, .inl rfl, filled, decimal, value, fits⟩
    · rintro ⟨digits, rfl | rfl, filled, decimal, value, fits⟩
      · exact ⟨⟨filled, decimal, value⟩, fits⟩
      · exact absurd rfl (unsigned digits)

namespace Frame

/-! ## The end of a line -/

/-- Whether a character may end a line. -/
def endsLine (char : Char) : Bool := char = '\r' || char = '\n'

/-- What ends lines is blank. -/
theorem isBlank_of_endsLine {char : Char} (ending : endsLine char = true) :
    isBlank char = true := by
  simp only [endsLine, Bool.or_eq_true, decide_eq_true_eq] at ending
  rcases ending with rfl | rfl <;> rfl

/-- The end of a line is the characters at its end that may be in one. -/
theorem withoutLineEnd_eq (line : List Char) :
    withoutLineEnd line = (line.reverse.dropWhile endsLine).reverse := rfl

/-- A line is what is left without its end, and the end. -/
theorem withoutLineEnd_append (line : List Char) :
    ∃ ending, line = withoutLineEnd line ++ ending ∧ ∀ char ∈ ending, endsLine char = true := by
  refine ⟨(line.reverse.takeWhile endsLine).reverse, ?_, fun char member => ?_⟩
  · have whole := List.takeWhile_append_dropWhile (p := endsLine) (l := line.reverse)
    have back := congrArg List.reverse whole
    rw [List.reverse_append, List.reverse_reverse] at back
    exact back.symm
  · exact List.mem_takeWhile_imp (List.mem_reverse.mp member)

/-- What ends a line is dropped. -/
theorem withoutLineEnd_append_of_ending (front : List Char) {ending : List Char}
    (ends : ∀ char ∈ ending, endsLine char = true) :
    withoutLineEnd (front ++ ending) = withoutLineEnd front := by
  have dropped : (ending.reverse ++ front.reverse).dropWhile endsLine =
      front.reverse.dropWhile endsLine :=
    List.dropWhile_append_of_pos fun char member => ends char (List.mem_reverse.mp member)
  rw [withoutLineEnd, List.reverse_append]
  exact congrArg List.reverse dropped

/-- The end of a line is dropped behind what is no part of it. -/
theorem withoutLineEnd_append_cons (front back : List Char) {char : Char}
    (apart : endsLine char = false) :
    withoutLineEnd (front ++ char :: back) = front ++ char :: withoutLineEnd back := by
  have kept : (char :: front.reverse).dropWhile endsLine = char :: front.reverse :=
    List.dropWhile_cons_of_neg (by simp [apart])
  have dropped : (back.reverse ++ char :: front.reverse).dropWhile endsLine =
      back.reverse.dropWhile endsLine ++ char :: front.reverse := by
    rw [List.dropWhile_append]
    split
    · next none => rw [kept, List.isEmpty_iff.mp none, List.nil_append]
    · rfl
  calc withoutLineEnd (front ++ char :: back)
      = ((back.reverse ++ char :: front.reverse).dropWhile endsLine).reverse := by
        simp [withoutLineEnd_eq]
    _ = front ++ char :: withoutLineEnd back := by simp [dropped, withoutLineEnd_eq]

/-- Blanks behind a value are trimmed off. -/
theorem trim_append_of_blank (front : List Char) {back : List Char}
    (blank : ∀ char ∈ back, isBlank char = true) : trim (front ++ back) = trim front := by
  have dropped (chars : List Char) : trimBack (chars ++ back) = trimBack chars := by
    rw [trimBack, List.reverse_append, List.dropWhile_append_of_pos
      fun char member => blank char (List.mem_reverse.mp member)]
    rfl
  rw [trim, trimFront, List.dropWhile_append]
  split
  · next none =>
    rw [List.dropWhile_eq_nil_iff.mpr blank, trim, trimFront, List.isEmpty_iff.mp none]
  · exact dropped _

/-- What is split at a colon has none before it. -/
theorem splitAtColon_eq_some {chars name value : List Char}
    (split : splitAtColon chars = some (name, value)) :
    chars = name ++ ':' :: value ∧ ':' ∉ name := by
  fun_induction splitAtColon chars generalizing name with
  | case1 => cases split
  | case2 behind =>
    cases split
    exact ⟨rfl, by simp⟩
  | case3 char rest other ih =>
    obtain ⟨⟨front, behind⟩, found, same⟩ := Option.map_eq_some_iff.mp split
    cases same
    obtain ⟨rfl, apart⟩ := ih found
    exact ⟨rfl, by simpa using ⟨Ne.symm other, apart⟩⟩

/-! ## Header lines -/

/-- A line with a colon in it. -/
structure HeaderLine where
  /-- What stands before the first colon. -/
  name : List Char
  /-- What stands behind it, up to the newline. -/
  value : List Char
  /-- There is no colon before the first one. -/
  named : ':' ∉ name
  /-- There is no newline inside the line. -/
  oneLine : '\n' ∉ name ++ value

namespace HeaderLine

variable (line : HeaderLine) {before after : Option Nat}

/-- The characters of a line before its newline. -/
def chars : List Char := line.name ++ ':' :: line.value

/-- A line on its way, its newline included. -/
def bytes : Bytes := Bytes.ofText (String.ofList (line.chars ++ ['\n']))

/-- Whether a line declares the length of a payload: blanks around its name and the case
of ASCII letters do not matter. -/
def IsLength : Prop := (trim line.name).map Char.toLower = "content-length".toList

instance : Decidable line.IsLength :=
  inferInstanceAs (Decidable (_ = _))

/-- Whether the length that is declared before a line becomes another one behind it. -/
def Turns (before after : Option Nat) : Prop :=
  if line.IsLength then ∃ length, Spells (trim line.value) length ∧ after = some length
  else after = before

variable {line} in
/-- Behind a length line, the length is declared that it spells. -/
theorem turns_of_isLength (declaration : line.IsLength) {length : Nat}
    (spelled : Spells (trim line.value) length) : line.Turns before (some length) := by
  rw [Turns, if_pos declaration]
  exact ⟨length, spelled, rfl⟩

variable {line} in
/-- Behind another line, the length is declared that was declared before it. -/
theorem turns_of_other (other : ¬ line.IsLength) : line.Turns before before := by
  rw [Turns, if_neg other]

/-- The characters before the newline of a line are on one line. -/
theorem newline_notMem_chars : '\n' ∉ line.chars := by
  have inside := line.oneLine
  simp only [List.mem_append, not_or] at inside
  simpa [chars] using inside

/-- What a line means for the length of the payload. -/
theorem meaning_iff :
    meaning before line.bytes = .header after ↔ line.Turns before after := by
  have apart : endsLine ':' = false := rfl
  obtain ⟨ending, whole, ends⟩ := withoutLineEnd_append (line.value ++ ['\n'])
  have shape : withoutLineEnd (line.chars ++ ['\n']) =
      line.name ++ ':' :: withoutLineEnd (line.value ++ ['\n']) := by
    rw [chars, List.append_assoc, List.cons_append, withoutLineEnd_append_cons _ _ apart]
  have value : trim (withoutLineEnd (line.value ++ ['\n'])) = trim line.value := by
    rw [← trim_append_of_blank _ fun char member => isBlank_of_endsLine (ends char member),
      ← whole, trim_append_of_blank]
    have newline : isBlank '\n' = true := rfl
    simpa using newline
  have named : isLengthHeader line.name = true ↔ line.IsLength := beq_iff_eq
  rw [meaning, bytes, Bytes.text?_ofText]
  simp only [String.toList_ofList, shape]
  split
  · next empty => simp at empty
  · simp only [splitAtColon_append _ _ line.named, value, Turns, named]
    by_cases declaration : line.IsLength
    · simp only [declaration, ↓reduceIte, ← unsigned64?_eq_some_iff]
      cases unsigned64? (trim line.value) with
      | none => simp
      | some length => simp [eq_comm]
    · simp [declaration, eq_comm]

/-- The newline of a line stands behind its characters. -/
theorem bytes_eq : line.bytes = Bytes.ofText (String.ofList line.chars) ++ [0x0A] := by
  have text : String.ofList (line.chars ++ ['\n']) =
      String.ofList line.chars ++ String.singleton '\n' := by
    apply String.toList_injective
    simp
  rw [bytes, text, Bytes.ofText_append]
  rfl

/-- The only newline of a line is the one at its end. -/
theorem newline_notMem : 0x0A ∉ Bytes.ofText (String.ofList line.chars) :=
  fun member => line.newline_notMem_chars (newline_mem_ofText.mp member)

/-- What is accepted as a header is a line with a colon in it. -/
theorem exists_of_meaning {body : Bytes} (inside : 0x0A ∉ body)
    (understood : meaning before (body ++ [0x0A]) = .header after) :
    ∃ line : HeaderLine, line.bytes = body ++ [0x0A] := by
  simp only [meaning] at understood
  split at understood
  · cases understood
  · next text spelled =>
    obtain ⟨chars, whole, oneLine, rfl⟩ := exists_of_text?_line inside spelled
    obtain ⟨ending, kept, -⟩ := withoutLineEnd_append text.toList
    split at understood
    · cases understood
    · split at understood
      · cases understood
      · next name value divided =>
        obtain ⟨front, named⟩ := splitAtColon_eq_some divided
        rw [front, whole, List.append_assoc, List.cons_append] at kept
        -- the newline stands behind the colon
        rcases List.eq_nil_or_concat (value ++ ending) with none | ⟨behind, last, split⟩
        · rw [none] at kept
          cases List.append_inj_right' kept rfl
        · rw [split, List.concat_eq_append, ← List.cons_append, ← List.append_assoc] at kept
          obtain ⟨rfl, same⟩ := List.append_inj' kept rfl
          have apart : '\n' ∉ name ++ behind := by
            simp only [List.mem_append, List.mem_cons, not_or] at oneLine ⊢
            exact ⟨oneLine.1, oneLine.2.2⟩
          exact ⟨⟨name, behind, named, apart⟩, bytes_eq _⟩

end HeaderLine

/-! ## Blank lines -/

/-- A line of carriage returns, its newline included. -/
def blankLine (returns : Nat) : Bytes := List.replicate returns 0x0D ++ [0x0A]

/-- A line of carriage returns is written as such. -/
theorem ofText_returns (returns : Nat) :
    Bytes.ofText (String.ofList (List.replicate returns '\r' ++ ['\n'])) = blankLine returns := by
  rw [Bytes.ofText_ofList, List.map_append, List.map_replicate]
  · rfl
  · intro char member
    rcases List.mem_append.mp member with member | member
    · rw [(List.mem_replicate.mp member).2]
      decide
    · rw [List.mem_singleton.mp member]
      decide

/-- A line of carriage returns ends a header block. -/
theorem meaning_blankLine (declared : Option Nat) (returns : Nat) :
    meaning declared (blankLine returns) = .blank := by
  have empty : withoutLineEnd (List.replicate returns '\r' ++ ['\n']) = [] := by
    rw [← List.nil_append (List.replicate returns '\r' ++ ['\n']), withoutLineEnd_append_of_ending]
    · rfl
    · simp [endsLine, or_imp, forall_and]
  rw [meaning, ← ofText_returns, Bytes.text?_ofText]
  simp only [String.toList_ofList, empty]

/-- A header block is ended by carriage returns and newlines only. -/
theorem returns_of_blank {declared : Option Nat} {line : Bytes}
    (blank : meaning declared line = .blank) : ∀ byte ∈ line, byte = 0x0D ∨ byte = 0x0A := by
  simp only [meaning] at blank
  split at blank
  · cases blank
  · next text spelled =>
    split at blank
    · next empty =>
      obtain ⟨ending, whole, ends⟩ := withoutLineEnd_append text.toList
      rw [empty, List.nil_append] at whole
      obtain rfl : text = String.ofList ending := String.toList_injective (by simp [whole])
      have ascii : ∀ char ∈ ending, char = '\r' ∨ char = '\n' := fun char member => by
        simpa [endsLine] using ends char member
      rw [← Bytes.ofText_of_text? spelled, Bytes.ofText_ofList fun char member => by
        rcases ascii char member with rfl | rfl <;> decide]
      intro byte member
      obtain ⟨char, among, rfl⟩ := List.mem_map.mp member
      rcases ascii char among with rfl | rfl
      · exact .inl rfl
      · exact .inr rfl
    · split at blank
      · cases blank
      · split at blank
        · split at blank <;> cases blank
        · cases blank

end Frame

end FoldAtlas
