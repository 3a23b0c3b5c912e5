import FoldAtlas.Text.Numeral

/-!
# Scanning

A scan takes something off the front of a text, or fails. The scans here are
common to all parts of a settings document: blanks, line ends and comments.
`many` repeats a scan that takes something off for as long as it succeeds.
-/

namespace FoldAtlas.Toml

/-- A scan: what it found, and the text behind it. -/
abbrev Scan (α : Type) := List Char → Option (α × List Char)

/-- Repeat a scan until it fails, at most once for each character of `bound`. -/
def manyUpTo {α : Type} (scan : Scan α) : (bound text : List Char) → List α × List Char
  | [], text => ([], text)
  | _ :: bound, text =>
    match scan text with
    | none => ([], text)
    | some (found, rest) =>
      let (others, rest) := manyUpTo scan bound rest
      (found :: others, rest)

/-- Repeat a scan that takes something off until it fails. It cannot do so more
often than the text has characters, so the text bounds its own repetitions. -/
def many {α : Type} (scan : Scan α) (text : List Char) : List α × List Char :=
  manyUpTo scan text text

/-- Scan a given text. -/
def literal : (wanted : List Char) → Scan Unit
  | [], text => some ((), text)
  | char :: wanted, other :: text => if char = other then literal wanted text else none
  | _ :: _, [] => none

/-- Whether a character is a blank within a line. -/
def isSpace (char : Char) : Bool := char == ' ' || char == '\t'

/-- The text behind any blanks at its front. -/
def skipSpaces (text : List Char) : List Char := text.dropWhile isSpace

/-- Scan the end of a line. -/
def newline : Scan Unit
  | '\n' :: rest => some ((), rest)
  | '\r' :: '\n' :: rest => some ((), rest)
  | _ => none

/-- Whether a character may stand in a comment: anything but control
characters other than the tab. -/
def isPlain (char : Char) : Bool :=
  char == '\t' || (0x20 ≤ char.toNat && char != '\x7f')

/-- Scan a comment, up to the end of its line. -/
def comment : Scan Unit
  | '#' :: rest => some ((), rest.dropWhile isPlain)
  | _ => none

/-- The text behind any blanks and a comment. -/
def skipComment (text : List Char) : List Char :=
  match comment (skipSpaces text) with
  | some ((), rest) => rest
  | none => skipSpaces text

/-- Scan what may stand at the end of a line, up to the next line or the end of
the text. -/
def lineEnd (text : List Char) : Option (List Char) :=
  match skipComment text with
  | [] => some []
  | rest => (newline rest).map (·.2)

/-- Scan blanks, or the end of a line with or without a comment. -/
def gap : Scan Unit
  | [] => none
  | char :: rest =>
    if isSpace char then some ((), rest)
    else match comment (char :: rest) with
      | some ((), rest) => newline rest
      | none => newline (char :: rest)

/-- The text behind blanks, line ends and comments that end in a line end. -/
def skipGaps (text : List Char) : List Char := (many gap text).2

/-- Scan at least one digit, where an underscore may stand between two. -/
def digits (value? : Char → Option Nat) : Scan (List Nat)
  | [] => none
  | char :: rest =>
    match value? char with
    | none => none
    | some first =>
      let following : Scan Nat := fun text =>
        match text with
        | '_' :: char :: rest => (value? char).map fun digit => (digit, rest)
        | char :: rest => (value? char).map fun digit => (digit, rest)
        | [] => none
      let (others, rest) := many following rest
      some (first :: others, rest)

/-- The number with some digits in a base. -/
def ofDigits (base : Nat) (digits : List Nat) : Nat :=
  digits.foldl (fun value digit => value * base + digit) 0

end FoldAtlas.Toml
