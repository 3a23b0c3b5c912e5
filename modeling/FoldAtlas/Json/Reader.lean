import FoldAtlas.Json.Literal
import FoldAtlas.Text.Utf8
import FoldAtlas.Text.Numeral

/-!
# Reading JSON

`Json.read` reads the bytes of one document as RFC 8259 defines it, with
nothing before or after it but white space. It is an automaton: a `Mode` says
what may come next, a stack holds the arrays and objects around the position,
and each byte moves both. A text is refused at the first byte that no document
could have there (`malformed`), or at its end when one could still be completed
(`truncated`). A string is checked for well-formed UTF-8 where it closes.

At most `maxNesting` arrays and objects may be nested. A repeated name keeps
its last value.
-/

namespace FoldAtlas.Json

/-- Why a text is not a document. -/
inductive Refusal where
  /-- Some byte cannot stand where it stands. -/
  | malformed
  /-- The text ends before the document does. -/
  | truncated
deriving DecidableEq, Repr

/-- How many arrays and objects may be nested. -/
def maxNesting : Nat := 127

/-- An array or object around the position. -/
inductive Enclosure where
  /-- An array, its items so far in reverse order. -/
  | array (itemsBackward : List Json)
  /-- An object, its members so far, and the name of the member being read. -/
  | object (members : List (String × Json)) (name : String)

/-- What a string is read for. -/
inductive StringRole where
  /-- As a value. -/
  | value
  /-- As the name of the next member of an object with some members. -/
  | name (members : List (String × Json))

/-- The position inside a string. -/
inductive StringPhase where
  /-- Between characters. -/
  | plain
  /-- After a backslash. -/
  | escape
  /-- Inside the four digits of a numbered escape, after `count` bytes. A low
  surrogate is expected when `high` holds a high one. -/
  | digits (count value : Nat) (flawed : Bool) (high : Option Nat)
  /-- After a high surrogate, before the backslash of the low one. -/
  | pairBackslash (high : Nat)
  /-- After a high surrogate and a backslash. -/
  | pairLetter (high : Nat)

/-- The position inside a number. -/
inductive NumberPhase where
  /-- After the minus sign. -/
  | sign
  /-- After a leading zero. -/
  | zero
  /-- After a digit before the point, the first not zero. -/
  | whole
  /-- After the point. -/
  | point
  /-- After a digit behind the point. -/
  | fraction
  /-- After the exponent letter. -/
  | mark
  /-- After the sign of the exponent. -/
  | markSign
  /-- After a digit of the exponent. -/
  | exponent

/-- The parts of a number read so far, digits in reverse order. -/
structure NumberParts where
  /-- Whether there is a minus sign. -/
  negative : Bool
  /-- The digits before the point. -/
  wholeBackward : List Nat
  /-- The digits after the point. -/
  fractionBackward : Option (List Nat)
  /-- Whether the exponent is negative, and its digits as one number. -/
  exponent : Option (Bool × Nat)

/-- What may come next. -/
inductive Mode where
  | value
  /-- The first item of the innermost array, or its end. -/
  | firstItem
  /-- A comma or the end of the innermost array. -/
  | afterItem
  /-- The first name of an object, or its end. -/
  | firstName
  /-- A name, after a comma. -/
  | nextName (members : List (String × Json))
  /-- The colon behind a name. -/
  | colon (members : List (String × Json)) (name : String)
  /-- A comma or the end of an object. -/
  | afterMember (members : List (String × Json))
  /-- The rest of a string, its bytes so far in reverse order. -/
  | string (role : StringRole) (bytesBackward : Bytes) (phase : StringPhase)
  /-- The rest of a word that spells a value. -/
  | word (rest : Bytes) (spelled : Json)
  /-- The rest of a number. -/
  | number (parts : NumberParts) (phase : NumberPhase)
  /-- Nothing but white space. -/
  | done (document : Json)

/-- A mode and the enclosures around the position, innermost first. -/
structure ReaderState where
  /-- What may come next. -/
  mode : Mode
  /-- The arrays and objects around the position. -/
  around : List Enclosure

/-- The state behind a complete value. -/
def complete (value : Json) : List Enclosure → ReaderState
  | [] => ⟨.done value, []⟩
  | .array items :: around => ⟨.afterItem, .array (value :: items) :: around⟩
  | .object members name :: around =>
    ⟨.afterMember (Keyed.insert name value members), around⟩

/-- White space between tokens. -/
def isSpace (byte : UInt8) : Bool :=
  byte == 0x20 || byte == 0x0A || byte == 0x0D || byte == 0x09

/-- The value of a byte that is a decimal digit. -/
def digit? (byte : UInt8) : Option Nat :=
  if 0x30 ≤ byte ∧ byte ≤ 0x39 then some (byte.toNat - 0x30) else none

/-- The value of a byte that is a hexadecimal digit. -/
def hexByte? (byte : UInt8) : Option Nat :=
  hexDigit? (Char.ofNat byte.toNat)

/-- A state between enclosures, if another may be opened. -/
def openEnclosure (mode : Mode) (around opened : List Enclosure) : Option ReaderState :=
  if around.length < maxNesting then some ⟨mode, opened⟩ else none

/-- The first byte of a value. -/
def beginValue (byte : UInt8) (around : List Enclosure) : Option ReaderState :=
  if byte = 0x22 then some ⟨.string .value [] .plain, around⟩
  else if byte = 0x5B then openEnclosure .firstItem around (.array [] :: around)
  else if byte = 0x7B then openEnclosure .firstName around around
  else if byte = 0x6E then some ⟨.word [0x75, 0x6C, 0x6C] .null, around⟩
  else if byte = 0x74 then some ⟨.word [0x72, 0x75, 0x65] (.bool true), around⟩
  else if byte = 0x66 then some ⟨.word [0x61, 0x6C, 0x73, 0x65] (.bool false), around⟩
  else if byte = 0x2D then some ⟨.number ⟨true, [], none, none⟩ .sign, around⟩
  else match digit? byte with
    | some 0 => some ⟨.number ⟨false, [0], none, none⟩ .zero, around⟩
    | some digit => some ⟨.number ⟨false, [digit], none, none⟩ .whole, around⟩
    | none => none

/-- What a letter behind a backslash stands for. -/
def escapeLetter? (byte : UInt8) : Option UInt8 :=
  if byte = 0x22 ∨ byte = 0x5C ∨ byte = 0x2F then some byte
  else if byte = 0x62 then some 0x08
  else if byte = 0x66 then some 0x0C
  else if byte = 0x6E then some 0x0A
  else if byte = 0x72 then some 0x0D
  else if byte = 0x74 then some 0x09
  else none

/-- The bytes of a code point, in reverse order. -/
def codeBackward (code : Nat) : Bytes :=
  (Bytes.ofText (String.singleton (Char.ofNat code))).reverse

/-- The position behind the fourth digit of a numbered escape, and the bytes
that it adds in reverse order. A surrogate stands only in a pair, the high one
first. -/
def endDigits (value : Nat) (high : Option Nat) : Option (Bytes × StringPhase) :=
  match high with
  | some high =>
    if 0xDC00 ≤ value ∧ value ≤ 0xDFFF then
      some (codeBackward ((high - 0xD800) * 0x400 + (value - 0xDC00) + 0x10000), .plain)
    else none
  | none =>
    if 0xDC00 ≤ value ∧ value ≤ 0xDFFF then none
    else if 0xD800 ≤ value ∧ value ≤ 0xDBFF then some ([], .pairBackslash value)
    else some (codeBackward value, .plain)

/-- The state behind the closing quote of a string. -/
def endString (role : StringRole) (bytesBackward : Bytes) (around : List Enclosure) :
    Option ReaderState :=
  match Bytes.text? bytesBackward.reverse with
  | none => none
  | some text =>
    match role with
    | .value => some (complete (.string text) around)
    | .name members => some ⟨.colon members text, around⟩

/-- A byte inside a string. The four bytes of a numbered escape are counted
before they are judged. -/
def stepString (role : StringRole) (bytesBackward : Bytes) (byte : UInt8)
    (around : List Enclosure) : StringPhase → Option ReaderState
  | .plain =>
    if byte = 0x22 then endString role bytesBackward around
    else if byte = 0x5C then some ⟨.string role bytesBackward .escape, around⟩
    else if byte < 0x20 then none
    else some ⟨.string role (byte :: bytesBackward) .plain, around⟩
  | .escape =>
    if byte = 0x75 then some ⟨.string role bytesBackward (.digits 0 0 false none), around⟩
    else match escapeLetter? byte with
      | some meant => some ⟨.string role (meant :: bytesBackward) .plain, around⟩
      | none => none
  | .digits count value flawed high =>
    let flawed := flawed || (hexByte? byte).isNone
    let value := value * 16 + (hexByte? byte).getD 0
    if count < 3 then
      some ⟨.string role bytesBackward (.digits (count + 1) value flawed high), around⟩
    else if flawed then none
    else match endDigits value high with
      | some (added, phase) => some ⟨.string role (added ++ bytesBackward) phase, around⟩
      | none => none
  | .pairBackslash high =>
    if byte = 0x5C then some ⟨.string role bytesBackward (.pairLetter high), around⟩
    else none
  | .pairLetter high =>
    if byte = 0x75 then
      some ⟨.string role bytesBackward (.digits 0 0 false (some high)), around⟩
    else none

namespace NumberParts

/-- Append a digit before the point. -/
def withWhole (parts : NumberParts) (digit : Nat) : NumberParts :=
  { parts with wholeBackward := digit :: parts.wholeBackward }

/-- Append a digit behind the point. -/
def withFraction (parts : NumberParts) (digit : Nat) : NumberParts :=
  { parts with fractionBackward := some (digit :: parts.fractionBackward.getD []) }

/-- Set the sign of the exponent. -/
def withExponentSign (parts : NumberParts) (negative : Bool) : NumberParts :=
  { parts with exponent := some (negative, 0) }

/-- Append a digit of the exponent. -/
def withExponent (parts : NumberParts) (digit : Nat) : NumberParts :=
  let (negative, value) := parts.exponent.getD (false, 0)
  { parts with exponent := some (negative, value * 10 + digit) }

/-- The literal that the parts make up. -/
def literal (parts : NumberParts) : Literal where
  negative := parts.negative
  whole := parts.wholeBackward.reverse
  fraction := parts.fractionBackward.map List.reverse
  exponent := parts.exponent.map fun (negative, value) => if negative then -value else value

end NumberParts

/-- The outcome of a byte inside a number. -/
inductive NumberStep where
  /-- The byte belongs to the number. -/
  | more (parts : NumberParts) (phase : NumberPhase)
  /-- The number ended before the byte. -/
  | ended
  /-- No number goes on like this. -/
  | refused

/-- A point or an exponent letter behind a complete number, or its end. -/
def afterDigits (parts : NumberParts) (byte : UInt8) (pointAllowed : Bool) : NumberStep :=
  if byte = 0x2E ∧ pointAllowed then .more parts .point
  else if byte = 0x65 ∨ byte = 0x45 then .more (parts.withExponentSign false) .mark
  else .ended

/-- A byte inside a number. -/
def stepNumber (parts : NumberParts) (byte : UInt8) : NumberPhase → NumberStep
  | .sign =>
    match digit? byte with
    | some 0 => .more (parts.withWhole 0) .zero
    | some digit => .more (parts.withWhole digit) .whole
    | none => .refused
  | .zero =>
    match digit? byte with
    | some _ => .refused
    | none => afterDigits parts byte true
  | .whole =>
    match digit? byte with
    | some digit => .more (parts.withWhole digit) .whole
    | none => afterDigits parts byte true
  | .point =>
    match digit? byte with
    | some digit => .more (parts.withFraction digit) .fraction
    | none => .refused
  | .fraction =>
    match digit? byte with
    | some digit => .more (parts.withFraction digit) .fraction
    | none => afterDigits parts byte false
  | .mark =>
    if byte = 0x2B then .more parts .markSign
    else if byte = 0x2D then .more (parts.withExponentSign true) .markSign
    else match digit? byte with
      | some digit => .more (parts.withExponent digit) .exponent
      | none => .refused
  | .markSign =>
    match digit? byte with
    | some digit => .more (parts.withExponent digit) .exponent
    | none => .refused
  | .exponent =>
    match digit? byte with
    | some digit => .more (parts.withExponent digit) .exponent
    | none => .ended

/-- A byte outside a number. -/
def stepToken (state : ReaderState) (byte : UInt8) : Option ReaderState :=
  match state.mode with
  | .value => if isSpace byte then some state else beginValue byte state.around
  | .firstItem =>
    if isSpace byte then some state
    else if byte = 0x5D then
      match state.around with
      | .array items :: around => some (complete (.array items.reverse) around)
      | _ => none
    else beginValue byte state.around
  | .afterItem =>
    if isSpace byte then some state
    else if byte = 0x2C then some ⟨.value, state.around⟩
    else if byte = 0x5D then
      match state.around with
      | .array items :: around => some (complete (.array items.reverse) around)
      | _ => none
    else none
  | .firstName =>
    if isSpace byte then some state
    else if byte = 0x22 then some ⟨.string (.name []) [] .plain, state.around⟩
    else if byte = 0x7D then some (complete (.object []) state.around)
    else none
  | .nextName members =>
    if isSpace byte then some state
    else if byte = 0x22 then some ⟨.string (.name members) [] .plain, state.around⟩
    else none
  | .colon members name =>
    if isSpace byte then some state
    else if byte = 0x3A then some ⟨.value, .object members name :: state.around⟩
    else none
  | .afterMember members =>
    if isSpace byte then some state
    else if byte = 0x2C then some ⟨.nextName members, state.around⟩
    else if byte = 0x7D then some (complete (.object members) state.around)
    else none
  | .string role bytesBackward phase => stepString role bytesBackward byte state.around phase
  | .word rest spelled =>
    match rest with
    | [] => none
    | [last] => if byte = last then some (complete spelled state.around) else none
    | next :: rest => if byte = next then some ⟨.word rest spelled, state.around⟩ else none
  | .number _ _ => none
  | .done _ => if isSpace byte then some state else none

/-- The state behind a byte, if a document can go on with it. A byte that ends
a number is read again behind the number. -/
def stepReader (state : ReaderState) (byte : UInt8) : Option ReaderState :=
  match state.mode with
  | .number parts phase =>
    match stepNumber parts byte phase with
    | .more parts phase => some ⟨.number parts phase, state.around⟩
    | .refused => none
    | .ended =>
      match parts.literal.number? with
      | none => none
      | some valued => stepToken (complete (.number valued) state.around) byte
  | _ => stepToken state byte

/-- Whether a number may end at a position. -/
def NumberPhase.isEnd : NumberPhase → Bool
  | .zero | .whole | .fraction | .exponent => true
  | _ => false

/-- The outcome when the text ends in a state. -/
def endOfText (state : ReaderState) : Except Refusal Json :=
  match state.mode with
  | .done document => .ok document
  | .number parts phase =>
    if phase.isEnd then
      match parts.literal.number? with
      | none => .error .malformed
      | some valued =>
        match (complete (.number valued) state.around).mode with
        | .done document => .ok document
        | _ => .error .truncated
    else .error .truncated
  | _ => .error .truncated

/-- Read the rest of a text. -/
def readFrom : ReaderState → Bytes → Except Refusal Json
  | state, [] => endOfText state
  | state, byte :: rest =>
    match stepReader state byte with
    | some next => readFrom next rest
    | none => .error .malformed

/-- The value that a document denotes. -/
def read (text : Bytes) : Except Refusal Json :=
  readFrom ⟨.value, []⟩ text

end FoldAtlas.Json
