import FoldAtlas.Toml.Scan

/-!
# Strings and keys

The four forms of a string: between double quotes with escapes, between single
quotes without, and each of them over several lines between three quotes. A line
end right behind three opening quotes does not count, every other one counts as
a line feed, and up to two quotes may stand inside or in front of the closing
three. A key is a bare word or a string on one line; keys are joined by dots.
-/

namespace FoldAtlas.Toml

/-- Scan a fixed number of hexadecimal digits that name a character. -/
def codePoint (count : Nat) : Scan Char := fun text =>
  match (text.take count).mapM hexDigit? with
  | none => none
  | some digits =>
    if digits.length ≠ count then none
    else
      let code := ofDigits 16 digits
      if code.isValidChar then some (Char.ofNat code, text.drop count) else none

/-- Scan what stands behind a backslash. -/
def escape : Scan Char
  | 'b' :: rest => some ('\x08', rest)
  | 't' :: rest => some ('\t', rest)
  | 'n' :: rest => some ('\n', rest)
  | 'f' :: rest => some ('\x0c', rest)
  | 'r' :: rest => some ('\r', rest)
  | '\x22' :: rest => some ('\x22', rest)
  | '\\' :: rest => some ('\\', rest)
  | 'u' :: rest => codePoint 4 rest
  | 'U' :: rest => codePoint 8 rest
  | _ => none

/-- Scan one character of a string between double quotes. -/
def basicChar : Scan Char
  | [] => none
  | '\\' :: rest => escape rest
  | char :: rest => if char != '\x22' && isPlain char then some (char, rest) else none

/-- Scan one character of a string between single quotes. -/
def literalChar : Scan Char
  | [] => none
  | char :: rest => if char != '\'' && isPlain char then some (char, rest) else none

/-- Scan a string on one line between two quotes. -/
def lineString (quote : Char) (content : Scan Char) : Scan String
  | [] => none
  | char :: rest =>
    if char = quote then
      match many content rest with
      | (chars, closing :: rest) =>
        if closing = quote then some (String.ofList chars, rest) else none
      | (_, []) => none
    else none

/-- The text behind blanks and line ends. -/
def skipLines (text : List Char) : List Char :=
  (many (fun text => match text with
    | [] => none
    | char :: rest => if isSpace char then some ((), rest) else newline (char :: rest)) text).2

/-- Scan a backslash in front of a line end, with every blank and line end that
follows. -/
def joinedLines : Scan Unit
  | '\\' :: rest => (newline (skipSpaces rest)).map fun (_, rest) => ((), skipLines rest)
  | _ => none

/-- Scan one piece of a string over several lines between double quotes. -/
def basicPiece : Scan (List Char) := fun text =>
  match joinedLines text with
  | some ((), rest) => some ([], rest)
  | none =>
    match newline text with
    | some ((), rest) => some (['\n'], rest)
    | none => (basicChar text).map fun (char, rest) => ([char], rest)

/-- Scan one piece of a string over several lines between single quotes. -/
def literalPiece : Scan (List Char) := fun text =>
  match newline text with
  | some ((), rest) => some (['\n'], rest)
  | none => (literalChar text).map fun (char, rest) => ([char], rest)

/-- Scan one piece of a string over several lines, or one or two quotes with the
piece that must follow them. -/
def pieceWithQuotes (quote : Char) (content : Scan (List Char)) : Scan (List Char) :=
  fun text =>
    match content text with
    | some found => some found
    | none =>
      let quotes := text.takeWhile (· == quote)
      if quotes.length = 1 ∨ quotes.length = 2 then
        (content (text.drop quotes.length)).map fun (piece, rest) => (quotes ++ piece, rest)
      else none

/-- Scan a string over several lines between two times three quotes. -/
def blockString (quote : Char) (content : Scan (List Char)) : Scan String := fun text =>
  match literal [quote, quote, quote] text with
  | none => none
  | some ((), rest) =>
    let body := match newline rest with
      | some ((), rest) => rest
      | none => rest
    let (pieces, rest) := many (pieceWithQuotes quote content) body
    let closing := min 5 (rest.takeWhile (· == quote)).length
    if 3 ≤ closing then
      some (String.ofList (pieces.flatten ++ List.replicate (closing - 3) quote),
        rest.drop closing)
    else none

/-- Scan a string on one line. -/
def shortString : Scan String := fun text =>
  match lineString '\x22' basicChar text with
  | some found => some found
  | none => lineString '\'' literalChar text

/-- Scan a string of any form. -/
def anyString : Scan String := fun text =>
  match text with
  | '\x22' :: '\x22' :: '\x22' :: _ => blockString '\x22' basicPiece text
  | '\'' :: '\'' :: '\'' :: _ => blockString '\'' literalPiece text
  | _ => shortString text

/-- Whether a character may stand in a bare word. -/
def isBare (char : Char) : Bool := char.isAlphanum || char == '_' || char == '-'

/-- Scan one key. -/
def simpleKey : Scan String := fun text =>
  match text.takeWhile isBare with
  | [] => shortString text
  | word => some (String.ofList word, text.drop word.length)

/-- Scan a dot and the key behind it, with blanks around both. -/
def dottedKey : Scan String := fun text =>
  match skipSpaces text with
  | '.' :: rest => simpleKey (skipSpaces rest)
  | _ => none

/-- How many keys may be joined. -/
def maxKeys : Nat := 79

/-- Scan a path of keys, with blanks around it. -/
def keyPath : Scan (List String) := fun text =>
  match simpleKey (skipSpaces text) with
  | none => none
  | some (first, rest) =>
    let (others, rest) := many dottedKey rest
    if maxKeys ≤ others.length then none else some (first :: others, skipSpaces rest)

end FoldAtlas.Toml
