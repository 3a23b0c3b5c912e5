/-!
# Blank characters

`isBlank` is the Unicode property White_Space. Header fields, environment
variables and settings are trimmed of blank characters on both ends.

The class is wider than the blanks a JSON or TOML text may hold between its
tokens; those formats name their own.
-/

namespace FoldAtlas

/-- The code points of White_Space, as inclusive ranges. -/
def blankRanges : List (Nat × Nat) :=
  [(0x9, 0xD), (0x20, 0x20), (0x85, 0x85), (0xA0, 0xA0), (0x1680, 0x1680),
    (0x2000, 0x200A), (0x2028, 0x2029), (0x202F, 0x202F), (0x205F, 0x205F),
    (0x3000, 0x3000)]

/-- Whether a character is white space in the sense of Unicode. -/
def isBlank (char : Char) : Bool :=
  blankRanges.any fun range => range.1 ≤ char.toNat && char.toNat ≤ range.2

/-- The characters after the blanks at the front. -/
def trimFront (chars : List Char) : List Char :=
  chars.dropWhile isBlank

/-- The characters before the blanks at the end. -/
def trimBack (chars : List Char) : List Char :=
  (chars.reverse.dropWhile isBlank).reverse

/-- The characters between the blanks at both ends. -/
def trim (chars : List Char) : List Char :=
  trimBack (trimFront chars)

end FoldAtlas
