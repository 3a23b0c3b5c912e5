import FoldAtlas.Json.Reader
import FoldAtlas.Json.Text
import Mathlib.Data.Nat.Digits.Defs

/-!
# Integers that are read back

The reader takes the digits of an integer one after the other, and what they amount to
is the integer that was written (`readFrom_integer`). A number has no end of its own:
it is over where something stands that no number goes on with (`Ends`).
-/

namespace FoldAtlas.Json

variable {around : List Enclosure} {rest : Bytes} {number digit : Nat}
  {state next : ReaderState}

/-- A byte with which a text can go on. -/
theorem readFrom_cons (steps : stepReader state byte = some next) (rest : Bytes) :
    readFrom state (byte :: rest) = readFrom next rest := by
  rw [readFrom, steps]

/-! ## Digits -/

/-- The byte of a decimal digit. -/
def digitByte (digit : Nat) : UInt8 := (Nat.digitChar digit).toUInt8

/-- The bytes of a natural number, most significant digit first. -/
def numeralBytes (number : Nat) : Bytes := (Nat.digits 10 number).reverse.map digitByte

/-- The byte of a digit has its value. -/
theorem digit?_digitByte (decimal : digit < 10) : digit? (digitByte digit) = some digit := by
  have checked : ∀ digit < 10, digit? (digitByte digit) = some digit := by decide
  exact checked digit decimal

/-- A positive number is written as its digits. -/
theorem ofText_toString (positive : 0 < number) :
    Bytes.ofText (toString number) = numeralBytes number := by
  have chars (number : Nat) (positive : 0 < number) :
      Nat.toDigits 10 number = (Nat.digits 10 number).reverse.map Nat.digitChar := by
    induction number using Nat.strongRecOn with
    | _ number ih =>
      rw [Nat.digits_def' (by decide) positive]
      by_cases small : number < 10
      · rw [Nat.toDigits_of_lt_base small, Nat.mod_eq_of_lt small, Nat.div_eq_of_lt small]
        rfl
      · have front := ih (number / 10) (by omega) (by omega)
        rw [Nat.toDigits_of_base_le (by decide) (by omega), front]
        simp
  have written : toString number = String.ofList (Nat.toDigits 10 number) := by
    apply String.toList_injective
    simp
  rw [written, Bytes.ofText_ofList, chars number positive, numeralBytes, List.map_map]
  · rfl
  · intro char member
    have bounds := bounds_of_isDigit (isDigit_of_mem_toDigits member)
    omega

/-- Zero is written as one digit. -/
theorem ofText_zero : Bytes.ofText (toString 0) = [digitByte 0] := by decide

/-! ## What digits amount to -/

/-- One more digit. -/
theorem appendDigits_concat {significand whole : Nat} {digits : List Nat}
    (taken : Literal.appendDigits significand digits = (whole, []))
    (fits : whole * 10 + digit ≤ Literal.maxSignificand) :
    Literal.appendDigits significand (digits ++ [digit]) = (whole * 10 + digit, []) := by
  induction digits generalizing significand with
  | nil =>
    obtain rfl : significand = whole := (Prod.mk.inj taken).1
    simp [Literal.appendDigits, fits]
  | cons first digits ih =>
    simp only [Literal.appendDigits] at taken
    simp only [List.cons_append, Literal.appendDigits]
    split at taken
    · next small => rw [if_pos small, ih taken]
    · simp at taken

/-- The digits of a number amount to it. -/
theorem appendDigits_digits (fits : number ≤ Literal.maxSignificand) :
    Literal.appendDigits 0 (Nat.digits 10 number).reverse = (number, []) := by
  induction number using Nat.strongRecOn with
  | _ number ih =>
    by_cases positive : 0 < number
    · rw [Nat.digits_def' (by decide) positive, List.reverse_cons]
      have front := ih (number / 10) (by omega) (by omega)
      have value : number / 10 * 10 + number % 10 = number := by omega
      rw [appendDigits_concat front (by omega), value]
    · obtain rfl : number = 0 := by omega
      rfl

/-- The literal of a natural number denotes it. -/
theorem number?_natural (fits : number ≤ Literal.maxSignificand) :
    Literal.number? ⟨false, (Nat.digits 10 number).reverse, none, none⟩ =
      some (.integer number) := by
  simp [Literal.number?, appendDigits_digits fits]

/-- The literal of a negative number denotes it. -/
theorem number?_negative (positive : 0 < number) (fits : number ≤ 2 ^ 63) :
    Literal.number? ⟨true, (Nat.digits 10 number).reverse, none, none⟩ =
      some (.integer (-number)) := by
  have least : Int64.minValue.toInt.natAbs = 2 ^ 63 := by decide
  have small : number ≤ Literal.maxSignificand := Nat.le_trans fits (by decide)
  simp only [Literal.number?, appendDigits_digits small, Bool.not_true, Bool.false_eq_true,
    ↓reduceIte]
  rw [if_neg]
  omega

/-! ## Reading -/

/-- Whether a number is over where a text stands: at its end, and where a separator follows. -/
def Ends (rest : Bytes) : Prop :=
  ∀ byte, rest.head? = some byte → byte = 0x2C ∨ byte = 0x5D ∨ byte = 0x7D

/-- Where a number may end, what it denotes is there. -/
theorem readFrom_ended {parts : NumberParts} {phase : NumberPhase} {valued : Number}
    (phased : phase.isEnd = true) (denotes : parts.literal.number? = some valued)
    (ends : Ends rest) :
    readFrom ⟨.number parts phase, around⟩ rest =
      readFrom (complete (.number valued) around) rest := by
  cases rest with
  | nil =>
    simp only [readFrom, endOfText, phased, denotes, ↓reduceIte]
    rcases around with _ | ⟨_ | _, _⟩ <;> rfl
  | cons byte rest =>
    have stops : stepNumber parts byte phase = .ended := by
      rcases ends byte rfl with rfl | rfl | rfl <;> cases phase <;> first | rfl | cases phased
    have again : stepReader (complete (.number valued) around) byte =
        stepToken (complete (.number valued) around) byte := by
      rcases around with _ | ⟨_ | _, _⟩ <;> rfl
    have onward : stepReader ⟨.number parts phase, around⟩ byte =
        stepToken (complete (.number valued) around) byte := by
      simp only [stepReader, stops, denotes]
    rw [readFrom, readFrom, onward, again]

/-- From where a first digit leads into a number, all digits do. -/
theorem readFrom_numeralBytes {start : ReaderState} {negative : Bool} (positive : 0 < number)
    (begins : ∀ digit, 0 < digit → digit < 10 → stepReader start (digitByte digit) =
      some ⟨.number ⟨negative, [digit], none, none⟩ .whole, around⟩) (rest : Bytes) :
    readFrom start (numeralBytes number ++ rest) =
      readFrom ⟨.number ⟨negative, Nat.digits 10 number, none, none⟩ .whole, around⟩ rest := by
  induction number using Nat.strongRecOn generalizing rest with
  | _ number ih =>
    by_cases small : number < 10
    · rw [numeralBytes, Nat.digits_of_lt 10 number (by omega) small]
      exact readFrom_cons (begins number positive small) rest
    · have digits := Nat.digits_def' (b := 10) (by decide) positive
      have written : numeralBytes number =
          numeralBytes (number / 10) ++ [digitByte (number % 10)] := by
        rw [numeralBytes, digits, List.reverse_cons, List.map_append]
        rfl
      have more : stepReader
          ⟨.number ⟨negative, Nat.digits 10 (number / 10), none, none⟩ .whole, around⟩
          (digitByte (number % 10)) =
          some ⟨.number ⟨negative, Nat.digits 10 number, none, none⟩ .whole, around⟩ := by
        simp only [stepReader, stepNumber, digit?_digitByte (Nat.mod_lt number (by decide)),
          NumberParts.withWhole, digits]
      rw [written, List.append_assoc, List.singleton_append,
        ih (number / 10) (by omega) (by omega), readFrom_cons more]

/-- A digit that is not zero begins a number. -/
theorem stepReader_digit (positive : 0 < digit) (decimal : digit < 10) :
    stepReader ⟨.value, around⟩ (digitByte digit) =
        some ⟨.number ⟨false, [digit], none, none⟩ .whole, around⟩ ∧
      stepReader ⟨.number ⟨true, [], none, none⟩ .sign, around⟩ (digitByte digit) =
        some ⟨.number ⟨true, [digit], none, none⟩ .whole, around⟩ := by
  have listed : digit = 1 ∨ digit = 2 ∨ digit = 3 ∨ digit = 4 ∨ digit = 5 ∨ digit = 6 ∨
      digit = 7 ∨ digit = 8 ∨ digit = 9 := by omega
  rcases listed with rfl | rfl | rfl | rfl | rfl | rfl | rfl | rfl | rfl <;> exact ⟨rfl, rfl⟩

/-- A natural number that fits in 64 bits is read as it was written. -/
theorem readFrom_natural (fits : number < 2 ^ 64) (ends : Ends rest) :
    readFrom ⟨.value, around⟩ (Bytes.ofText (toString number) ++ rest) =
      readFrom (complete (.integer number) around) rest := by
  rcases Nat.eq_zero_or_pos number with rfl | positive
  · rw [ofText_zero]
    have begun : stepReader ⟨.value, around⟩ (digitByte 0) =
        some ⟨.number ⟨false, [0], none, none⟩ .zero, around⟩ := rfl
    exact (readFrom_cons begun rest).trans (readFrom_ended rfl rfl ends)
  · have small : number ≤ Literal.maxSignificand := Nat.le_of_lt_succ fits
    rw [ofText_toString positive, readFrom_numeralBytes positive fun digit positive decimal =>
      (stepReader_digit positive decimal).1]
    exact readFrom_ended rfl (number?_natural small) ends

/-- The negative of a positive number up to `2 ^ 63` is read as it was written. -/
theorem readFrom_negative (positive : 0 < number) (fits : number ≤ 2 ^ 63) (ends : Ends rest) :
    readFrom ⟨.value, around⟩ (0x2D :: Bytes.ofText (toString number) ++ rest) =
      readFrom (complete (.integer (-number)) around) rest := by
  have signed : stepReader ⟨.value, around⟩ 0x2D =
      some ⟨.number ⟨true, [], none, none⟩ .sign, around⟩ := rfl
  rw [List.cons_append, readFrom_cons signed, ofText_toString positive,
    readFrom_numeralBytes positive fun digit positive decimal =>
      (stepReader_digit positive decimal).2]
  exact readFrom_ended rfl (number?_negative positive fits) ends

/-- An integer that fits in 64 bits, with or without a sign, is read as it was written. -/
theorem readFrom_integer {value : Int} (least : -2 ^ 63 ≤ value) (greatest : value < 2 ^ 64)
    (ends : Ends rest) :
    readFrom ⟨.value, around⟩ (Bytes.ofText (toString value) ++ rest) =
      readFrom (complete (.integer value) around) rest := by
  cases value with
  | ofNat number =>
    have fits : number < 2 ^ 64 := by simpa using greatest
    exact readFrom_natural fits ends
  | negSucc number =>
    have written : toString (Int.negSucc number) = "-" ++ toString (number + 1) := rfl
    rw [written, Bytes.ofText_append]
    exact readFrom_negative (Nat.succ_pos number) (by omega) ends

end FoldAtlas.Json
