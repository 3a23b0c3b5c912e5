import FoldAtlas.Proofs.Json.Strings

/-!
# Numbers that are read back

Reading rounds more than once, so that a double may come back as a neighbour of itself
when its text is read; integers of 64 bits come back as they are. A number that comes back
from a text of its own (`Number.Returns`) comes back wherever a value may stand
(`Number.Returns.readFrom`), since what is around it matters only where it is over.
-/

namespace FoldAtlas

variable {text : String}

/-! ## The first character -/

/-- Whether a text begins with a digit or a minus sign. -/
def Led (text : String) : Prop :=
  ∃ first rest, text.toList = first :: rest ∧ (first = '-' ∨ first.isDigit = true)

/-- What begins a text begins it whatever follows. -/
theorem Led.append (led : Led text) (more : String) : Led (text ++ more) := by
  obtain ⟨first, rest, begins, leads⟩ := led
  exact ⟨first, rest ++ more.toList, by rw [String.toList_append, begins, List.cons_append], leads⟩

/-- A decimal begins with a digit. -/
theorem led_write (layout : DecimalLayout) (decimal : Decimal) : Led (layout.write decimal) := by
  obtain ⟨first, rest, digits⟩ := List.exists_cons_of_ne_nil
    (Nat.toDigits_ne_nil (n := decimal.digits) (b := 10))
  have leads : first.isDigit = true := isDigit_of_mem_toDigits (digits ▸ List.mem_cons_self)
  have led (chars : List Char) : Led (String.ofList (first :: chars)) :=
    ⟨first, chars, by simp, .inr leads⟩
  have zero : Led "0." := ⟨'0', ['.'], rfl, .inr rfl⟩
  simp only [DecimalLayout.write, digits]
  split
  · split
    · exact (zero.append _).append _
    · split
      · exact ((led rest).append _).append _
      · exact ((led _).append _).append _
  · refine Led.append (Led.append ?_ _) _
    cases rest with
    | nil => exact ⟨first, [], by simp, .inr leads⟩
    | cons second rest => exact Led.append (Led.append ⟨first, [], by simp, .inr leads⟩ _) _

namespace Json

variable {around : List Enclosure} {bytes rest : Bytes} {number : Number} {value : Json}

/-- A number begins with a digit or a minus sign. -/
theorem Number.led_text (number : Number) : Led number.text := by
  cases number with
  | integer value =>
    cases value with
    | ofNat number =>
      obtain ⟨first, rest, digits⟩ := List.exists_cons_of_ne_nil
        (Nat.toDigits_ne_nil (n := number) (b := 10))
      refine ⟨first, rest, ?_, .inr (isDigit_of_mem_toDigits (digits ▸ List.mem_cons_self))⟩
      have written : (toString (Int.ofNat number)).toList = Nat.toDigits 10 number := by
        rw [show toString (Int.ofNat number) = toString number from rfl]
        simp
      rw [Number.text, written, digits]
    | negSucc number =>
      have written : toString (Int.negSucc number) = "-" ++ toString (number + 1) := rfl
      rw [Number.text, written]
      exact Led.append ⟨'-', [], rfl, .inl rfl⟩ _
  | double value =>
    simp only [Number.text, DecimalLayout.writeDouble]
    cases value.negative with
    | true =>
      have signed : Led "-" := ⟨'-', [], rfl, .inl rfl⟩
      split
      · exact (signed.append _).append _
      · exact signed.append _
    | false =>
      have zero : Led "0" := ⟨'0', [], rfl, .inr rfl⟩
      split
      · simpa using zero.append _
      · simpa using led_write _ _

/-- Digits are the characters of the numbers below ten. -/
theorem exists_digit {char : Char} (digit : char.isDigit = true) :
    ∃ value < 10, char = Nat.digitChar value := by
  have bounds := bounds_of_isDigit digit
  have checked : ∀ value < 10, (Nat.digitChar value).toNat = 0x30 + value := by decide
  refine ⟨char.toNat - 0x30, by omega, Char.toNat_inj.mp ?_⟩
  rw [checked _ (by omega)]
  omega

/-- What begins with a digit or a minus sign begins with its byte. -/
theorem exists_of_led (led : Led text) : ∃ byte bytes, Bytes.ofText text = byte :: bytes ∧
    (byte = 0x2D ∨ ∃ digit < 10, byte = digitByte digit) := by
  obtain ⟨first, rest, begins, leads⟩ := led
  obtain rfl : text = String.ofList (first :: rest) := String.toList_injective (by simp [begins])
  have ascii : first.toNat < 128 := by
    rcases leads with rfl | digit
    · decide
    · exact (Nat.lt_of_le_of_lt (bounds_of_isDigit digit).2 (by decide))
  have single : Bytes.ofText (String.singleton first) = [first.toUInt8] :=
    Bytes.ofText_singleton_of_ascii ascii
  refine ⟨first.toUInt8, Bytes.ofText (String.ofList rest), ?_, ?_⟩
  · rw [Bytes.ofText_cons, single, List.singleton_append]
  · rcases leads with rfl | digit
    · exact .inl rfl
    · obtain ⟨value, small, rfl⟩ := exists_digit digit
      exact .inr ⟨value, small, rfl⟩

/-! ## Numbers among other values -/

/-- Whether a number comes back when its text is read. -/
def Number.Returns (number : Number) : Prop :=
  read (Bytes.ofText number.text) = .ok (.number number)

/-- Whether what was read is a given number. -/
def readsNumber (number : Number) : Except Refusal Json → Bool
  | .ok (.number other) => other == number
  | _ => false

/-- Nothing but a number is read as a number. -/
theorem readsNumber_iff {outcome : Except Refusal Json} :
    readsNumber number outcome = true ↔ outcome = .ok (.number number) := by
  cases outcome with
  | error refusal => simp [readsNumber]
  | ok value => cases value <;> simp [readsNumber]

instance (number : Number) : Decidable number.Returns :=
  decidable_of_iff _ readsNumber_iff

/-- Integers that fit in 64 bits come back. -/
theorem returns_integer {value : Int} (least : -2 ^ 63 ≤ value) (greatest : value < 2 ^ 64) :
    (Number.integer value).Returns := by
  have none : Ends [] := by
    intro byte same
    cases same
  have whole : readFrom ⟨.value, []⟩ (Bytes.ofText (toString value) ++ []) =
      .ok (.integer value) := readFrom_integer least greatest none
  rw [List.append_nil] at whole
  exact whole

/-- A digit or a minus sign begins a number, whatever is around it. -/
theorem exists_number {byte : UInt8} (leads : byte = 0x2D ∨ ∃ digit < 10, byte = digitByte digit) :
    ∃ parts phase, ∀ around,
      stepReader ⟨.value, around⟩ byte = some ⟨.number parts phase, around⟩ := by
  rcases leads with rfl | ⟨digit, small, rfl⟩
  · exact ⟨_, _, fun _ => rfl⟩
  · rcases Nat.eq_zero_or_pos digit with rfl | positive
    · exact ⟨_, _, fun _ => rfl⟩
    · exact ⟨_, _, fun _ => (stepReader_digit positive small).1⟩

/-- Behind a complete document there is nothing but white space. -/
theorem spaces_of_done {document : Json}
    (reads : readFrom ⟨.done document, []⟩ bytes = .ok value) :
    value = document ∧ ∀ byte ∈ bytes, isSpace byte = true := by
  induction bytes with
  | nil => exact ⟨(Except.ok.inj reads).symm, by simp⟩
  | cons byte bytes ih =>
    simp only [readFrom, stepReader, stepToken] at reads
    by_cases space : isSpace byte = true
    · simp only [space, ↓reduceIte] at reads
      obtain ⟨same, others⟩ := ih reads
      exact ⟨same, List.forall_mem_cons.mpr ⟨space, others⟩⟩
    · simp only [space, Bool.false_eq_true, ↓reduceIte, reduceCtorEq] at reads

/-- White space behind a complete value is passed over. -/
theorem stepToken_space {byte : UInt8} (space : isSpace byte = true) (value : Json)
    (around : List Enclosure) :
    stepToken (complete value around) byte = some (complete value around) := by
  rcases around with _ | ⟨_ | _, _⟩ <;> simp [complete, stepToken, space]

/-- White space behind a complete value makes no difference. -/
theorem readFrom_spaces (spaces : ∀ byte ∈ bytes, isSpace byte = true) (value : Json)
    (around : List Enclosure) (rest : Bytes) :
    readFrom (complete value around) (bytes ++ rest) = readFrom (complete value around) rest := by
  induction bytes with
  | nil => rfl
  | cons byte bytes ih =>
    obtain ⟨space, others⟩ := List.forall_mem_cons.mp spaces
    have stays : stepReader (complete value around) byte = some (complete value around) := by
      rw [← stepToken_space space value around]
      rcases around with _ | ⟨_ | _, _⟩ <;> rfl
    rw [List.cons_append, readFrom_cons stays, ih others]

/-- A number that is a document of its own is the same number where other values are
around it. -/
theorem readFrom_around {parts : NumberParts} {phase : NumberPhase}
    (reads : readFrom ⟨.number parts phase, []⟩ bytes = .ok value) (ends : Ends rest) :
    readFrom ⟨.number parts phase, around⟩ (bytes ++ rest) =
      readFrom (complete value around) rest := by
  induction bytes generalizing parts phase with
  | nil =>
    simp only [readFrom, endOfText] at reads
    split at reads
    · next ended =>
      cases denotes : parts.literal.number? with
      | none => simp [denotes] at reads
      | some valued =>
        simp only [denotes, complete] at reads
        obtain rfl := Except.ok.inj reads
        exact readFrom_ended ended denotes ends
    · cases reads
  | cons byte bytes ih =>
    rw [readFrom] at reads
    rw [List.cons_append, readFrom]
    simp only [stepReader] at reads ⊢
    cases step : stepNumber parts byte phase with
    | more parts phase =>
      simp only [step] at reads ⊢
      exact ih reads
    | refused => simp [step] at reads
    | ended =>
      simp only [step] at reads ⊢
      cases denotes : parts.literal.number? with
      | none => simp [denotes] at reads
      | some valued =>
        simp only [denotes] at reads ⊢
        by_cases space : isSpace byte = true
        · simp only [stepToken_space space] at reads ⊢
          obtain ⟨rfl, spaces⟩ := spaces_of_done reads
          exact readFrom_spaces spaces _ _ _
        · simp [complete, stepToken, space] at reads

/-- A number that comes back from a text of its own comes back wherever a value may
stand. -/
theorem Number.Returns.readFrom (returns : number.Returns) (ends : Ends rest) :
    readFrom ⟨.value, around⟩ (Bytes.ofText number.text ++ rest) =
      readFrom (complete (.number number) around) rest := by
  obtain ⟨byte, bytes, written, leads⟩ := exists_of_led number.led_text
  obtain ⟨parts, phase, begins⟩ := exists_number leads
  have reads : Json.readFrom ⟨.number parts phase, []⟩ bytes = .ok (.number number) := by
    rw [← readFrom_cons (begins [])]
    exact written ▸ returns
  rw [written, List.cons_append, readFrom_cons (begins around)]
  exact readFrom_around reads ends

end Json

end FoldAtlas
