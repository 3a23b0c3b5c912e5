import FoldAtlas.Frame.Error
import FoldAtlas.Text.Blank
import FoldAtlas.Text.Utf8

/-!
# Header lines

The lines of a header block: how one is taken off a byte stream within a budget
of bytes, and what it means. A line is taken without loss (`line_append_rest`)
and never beyond its budget (`length_scanLine_le`).
-/

namespace FoldAtlas

namespace Frame

/-- The beginning of a stream up to the end of its first line. -/
structure LineScan where
  /-- The bytes of the line, its newline included if it was reached. -/
  line : Bytes
  /-- The bytes behind the line. -/
  rest : Bytes
  /-- Whether a newline or the limit ended the line, and not the stream. -/
  ended : Bool

/-- Take a line of at most `limit` bytes off a stream. -/
def scanLine : (limit : Nat) → Bytes → LineScan
  | 0, stream => ⟨[], stream, true⟩
  | _ + 1, [] => ⟨[], [], false⟩
  | limit + 1, byte :: stream =>
    if byte = 0x0A then ⟨[byte], stream, true⟩
    else
      let scan := scanLine limit stream
      ⟨byte :: scan.line, scan.rest, scan.ended⟩

/-- A scanned line has no more bytes than its limit. -/
theorem length_scanLine_le (limit : Nat) (stream : Bytes) :
    (scanLine limit stream).line.length ≤ limit := by
  fun_induction scanLine limit stream with
  | case1 => simp
  | case2 => simp
  | case3 => simp
  | case4 limit byte stream _ scan ih => exact Nat.succ_le_succ ih

/-- Nothing is lost between a line and what lies behind it. -/
theorem line_append_rest (limit : Nat) (stream : Bytes) :
    (scanLine limit stream).line ++ (scanLine limit stream).rest = stream := by
  fun_induction scanLine limit stream with
  | case1 => rfl
  | case2 => rfl
  | case3 => rfl
  | case4 limit byte stream _ scan ih => simpa [scan] using ih

/-- A line that ended does not change when more bytes come. -/
theorem scanLine_append {limit : Nat} {stream : Bytes}
    (ended : (scanLine limit stream).ended = true) (more : Bytes) :
    scanLine limit (stream ++ more) =
      ⟨(scanLine limit stream).line, (scanLine limit stream).rest ++ more, true⟩ := by
  fun_induction scanLine limit stream with
  | case1 stream => cases stream <;> simp [scanLine]
  | case2 => cases ended
  | case3 => simp [scanLine]
  | case4 limit byte stream other scan ih => simp [scanLine, other, ih ended, scan]

/-- Within the limit, the first newline ends a line. -/
theorem scanLine_newline {limit : Nat} {line : Bytes} (inside : 0x0A ∉ line)
    (fits : line.length < limit) (rest : Bytes) :
    scanLine limit (line ++ 0x0A :: rest) = ⟨line ++ [0x0A], rest, true⟩ := by
  induction line generalizing limit with
  | nil =>
    obtain ⟨limit, rfl⟩ := Nat.exists_eq_add_one_of_ne_zero (Nat.ne_of_gt fits)
    simp [scanLine]
  | cons byte line ih =>
    obtain ⟨limit, rfl⟩ := Nat.exists_eq_add_one_of_ne_zero (Nat.ne_zero_of_lt fits)
    simp only [List.mem_cons, not_or] at inside
    have other : byte ≠ 0x0A := Ne.symm inside.1
    simp [scanLine, other, ih inside.2 (Nat.lt_of_succ_lt_succ fits)]

/-- Drop the carriage returns and newlines at the end of a line. -/
def withoutLineEnd (line : List Char) : List Char :=
  (line.reverse.dropWhile fun char => char = '\r' || char = '\n').reverse

/-- The characters before and behind the first colon. -/
def splitAtColon : List Char → Option (List Char × List Char)
  | [] => none
  | ':' :: value => some ([], value)
  | char :: rest => (splitAtColon rest).map fun (name, value) => (char :: name, value)

/-- What lies before and behind the first colon. -/
theorem splitAtColon_append (name value : List Char) (inside : ':' ∉ name) :
    splitAtColon (name ++ ':' :: value) = some (name, value) := by
  induction name with
  | nil => rfl
  | cons char rest ih =>
    simp only [List.mem_cons, not_or] at inside
    have other : char ≠ ':' := Ne.symm inside.1
    simp [splitAtColon, ih inside.2]

/-- The name of the header that declares the length, in lower case. -/
def lengthHeader : List Char := "content-length".toList

/-- Whether a header name is the one that declares the length. Blanks around it
and the case of ASCII letters do not matter. -/
def isLengthHeader (name : List Char) : Bool :=
  (trim name).map Char.toLower == lengthHeader

/-- What a header line means. -/
inductive LineMeaning where
  /-- It ends the header block. -/
  | blank
  /-- It is a header; the length declared so far is given. -/
  | header (declared : Option Nat)
  /-- It cannot be in a header block. -/
  | refused (error : FrameError)

/-- The meaning of a line behind a part of the header block that declared a
length or none. -/
def meaning (declared : Option Nat) (line : Bytes) : LineMeaning :=
  match Bytes.text? line with
  | none => .refused .headerNotText
  | some text =>
    match withoutLineEnd text.toList with
    | [] => .blank
    | chars =>
      match splitAtColon chars with
      | none => .refused (.malformedLine (String.ofList chars))
      | some (name, value) =>
        if isLengthHeader name then
          match unsigned64? (trim value) with
          | some length => .header (some length.toNat)
          | none => .refused (.invalidLength (String.ofList (trim value)))
        else .header declared

/-- Whether a line uses up its budget without a newline at its end. -/
def overruns (budget : Nat) (line : Bytes) : Bool :=
  line.length == budget && line.getLast? != some 0x0A

/-- A line that ended within its budget is not empty. -/
theorem scanLine_length_pos {budget : Nat} {stream : Bytes}
    (ended : (scanLine budget stream).ended = true)
    (fits : overruns budget (scanLine budget stream).line = false) :
    0 < (scanLine budget stream).line.length := by
  cases budget with
  | zero => simp [scanLine, overruns] at fits
  | succ budget =>
    cases stream with
    | nil => simp [scanLine] at ended
    | cons byte stream =>
      simp only [scanLine]
      split <;> simp

end Frame

end FoldAtlas
