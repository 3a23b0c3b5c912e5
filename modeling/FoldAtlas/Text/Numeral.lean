/-!
# Numerals

Decimal and hexadecimal digits, and the unsigned 64-bit numerals in which
header lengths, identifiers and durations are written: an optional plus sign,
then at least one ASCII digit, denoting less than 2 ^ 64.
-/

namespace FoldAtlas

/-- The value of an ASCII decimal digit. -/
def decimalDigit? (char : Char) : Option Nat :=
  if 0x30 ≤ char.toNat ∧ char.toNat ≤ 0x39 then some (char.toNat - 0x30) else none

/-- The number that a list of decimal digits continues, most significant
digit first. -/
def continueDecimal : Nat → List Char → Option Nat
  | value, [] => some value
  | value, char :: rest =>
    match decimalDigit? char with
    | some digit => continueDecimal (value * 10 + digit) rest
    | none => none

/-- The number that a non-empty list of decimal digits denotes. -/
def decimal? : List Char → Option Nat
  | [] => none
  | digits => continueDecimal 0 digits

/-- The unsigned 64-bit number that a numeral denotes. -/
def unsigned64? (numeral : List Char) : Option UInt64 :=
  let digits := match numeral with
    | '+' :: rest => rest
    | other => other
  match decimal? digits with
  | some value => if value < UInt64.size then some (UInt64.ofNat value) else none
  | none => none

/-- Where the standard library's digits lie. -/
theorem bounds_of_isDigit {char : Char} (digit : char.isDigit = true) :
    0x30 ≤ char.toNat ∧ char.toNat ≤ 0x39 := by
  simpa [Char.isDigit, UInt32.le_iff_toNat_le] using digit

/-- The value of what the standard library calls a digit. -/
theorem decimalDigit?_of_isDigit {char : Char} (digit : char.isDigit = true) :
    decimalDigit? char = some (char.toNat - '0'.toNat) := by
  rw [decimalDigit?, if_pos (bounds_of_isDigit digit)]
  rfl

/-- The number that some digits continue. -/
theorem continueDecimal_eq (value : Nat) {digits : List Char}
    (decimal : ∀ char ∈ digits, char.isDigit = true) :
    continueDecimal value digits = some (Nat.ofDigitChars 10 digits value) := by
  induction digits generalizing value with
  | nil => rfl
  | cons char rest ih =>
    simp only [continueDecimal, decimalDigit?_of_isDigit (decimal char List.mem_cons_self)]
    rw [ih _ fun other member => decimal other (List.mem_cons_of_mem _ member),
      Nat.ofDigitChars_cons, Nat.mul_comm]

/-- A number is written with digits. -/
theorem isDigit_of_mem_toDigits {number : Nat} {char : Char}
    (member : char ∈ Nat.toDigits 10 number) : char.isDigit = true :=
  Nat.isDigit_of_mem_toDigits (by decide) (by decide) member

/-- Writing a number and reading the digits gives the number back. -/
@[simp]
theorem decimal?_toDigits (number : Nat) : decimal? (Nat.toDigits 10 number) = some number := by
  have digits := continueDecimal_eq 0 fun char (member : char ∈ Nat.toDigits 10 number) =>
    isDigit_of_mem_toDigits member
  rw [Nat.ofDigitChars_ten_toDigits] at digits
  cases written : Nat.toDigits 10 number with
  | nil => exact absurd written Nat.toDigits_ne_nil
  | cons char rest =>
    rw [decimal?, ← written, digits]
    simp

/-- Writing a number below 2 ^ 64 and reading the numeral gives the number back. -/
theorem unsigned64?_toDigits {number : Nat} (bound : number < UInt64.size) :
    unsigned64? (Nat.toDigits 10 number) = some (.ofNat number) := by
  have unsigned : ∀ rest, Nat.toDigits 10 number ≠ '+' :: rest := by
    intro rest same
    have digit : '+'.isDigit = true := isDigit_of_mem_toDigits (same ▸ List.mem_cons_self)
    cases digit
  simp only [unsigned64?, decimal?_toDigits, bound, ↓reduceIte]

/-- The character of a hexadecimal digit, in lower case. -/
def hexLower (digit : Nat) : Char :=
  if digit < 10 then Char.ofNat (0x30 + digit) else Char.ofNat (0x61 + (digit - 10))

/-- The character of a hexadecimal digit, in upper case. -/
def hexUpper (digit : Nat) : Char :=
  if digit < 10 then Char.ofNat (0x30 + digit) else Char.ofNat (0x41 + (digit - 10))

/-- The value of a hexadecimal digit of either case. -/
def hexDigit? (char : Char) : Option Nat :=
  let code := char.toNat
  if 0x30 ≤ code ∧ code ≤ 0x39 then some (code - 0x30)
  else if 0x61 ≤ code ∧ code ≤ 0x66 then some (code - 0x61 + 10)
  else if 0x41 ≤ code ∧ code ≤ 0x46 then some (code - 0x41 + 10)
  else none

/-- The hexadecimal digits of a number in lower case, without leading zeros. -/
def hexNumeral (number : Nat) : String :=
  String.ofList ((Nat.toDigits 16 number))

end FoldAtlas
