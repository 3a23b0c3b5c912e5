import FoldAtlas.Text.Numeral

/-!
# Complaints with a place

A complaint about a text may end with the line and the column that it is about,
in the words `at line 3 column 14`. `Complaint.ofText` takes such an ending off
a wording, and `Complaint.message` puts it back: the numbers lose their leading
zeros, and line 0, which no text has, means that no place is known.
-/

namespace FoldAtlas

/-- A complaint about a text. -/
structure Complaint where
  /-- What is wrong. -/
  words : String
  /-- The line, counted from 1; 0 if no place is known. -/
  line : UInt64
  column : UInt64
deriving DecidableEq, Repr

namespace Complaint

/-- What introduces the line. -/
def lineMark : String := " at line "

/-- What introduces the column. -/
def columnMark : String := " column "

/-- The number that stands at the end of a text behind a mark, with the text
before the mark; both texts are reversed. A number is written without a sign. -/
def numberBehind? (mark : String) (reversed : List Char) : Option (UInt64 × List Char) :=
  let isDigit := fun char => (decimalDigit? char).isSome
  let before := reversed.dropWhile isDigit
  let introduced := mark.toList.reverse
  if introduced.isPrefixOf before then
    (unsigned64? (reversed.takeWhile isDigit).reverse).map fun number =>
      (number, before.drop introduced.length)
  else none

/-- The complaint that a wording makes. A wording without a place at its end is
kept as it is. -/
def ofText (text : String) : Complaint :=
  let placed := do
    let (column, rest) ← numberBehind? columnMark text.toList.reverse
    let (line, rest) ← numberBehind? lineMark rest
    return (⟨String.ofList rest.reverse, line, column⟩ : Complaint)
  placed.getD ⟨text, 0, 0⟩

/-- The wording. -/
def message (complaint : Complaint) : String :=
  if complaint.line = 0 then complaint.words
  else complaint.words ++ lineMark ++ toString complaint.line.toNat ++ columnMark ++
    toString complaint.column.toNat

end Complaint

end FoldAtlas
